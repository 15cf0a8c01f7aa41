import Attest.Proofs.Json.Number
import Attest.Proofs.Json.Text

/-!
# Data comes back from JSON

Data that has a JSON text of its own (`Carried`) is read as it was written, in every layout
that puts nothing but space between tokens.  The induction is on the data and its statement is
about any text that may follow (`ReadsBack`): for a list or an object the members are taken
one after the other, and each of them is followed by what ends it.  The reader's fuel lasts
because every step of reading takes a character at least.
-/

namespace Attest.Json

/-- Data that JSON text carries unchanged, with at most `levels` containers within one another:
integers within the limit of the reader, texts without halves of characters, objects with one
field of each name, and no floating-point numbers. -/
inductive Carried : (levels : Nat) → Value → Prop where
  | null (levels : Nat) : Carried levels .null
  | bool (levels : Nat) (b : Bool) : Carried levels (.bool b)
  | int (levels : Nat) {n : Int}
      (hlimit : (Nat.toDigits 10 n.natAbs).length ≤ Numeral.digitLimit) : Carried levels (.int n)
  | text (levels : Nat) {s : String} (hs : Text.hasHalf s = false) : Carried levels (.text s)
  | list {levels : Nat} {vs : List Value} (hvs : ∀ v ∈ vs, Carried levels v) :
      Carried (levels + 1) (.list vs)
  | object {levels : Nat} {fields : Fields} (hnames : (fields.map (·.1)).Nodup)
      (htexts : ∀ name ∈ fields.map (·.1), Text.hasHalf name = false)
      (hvalues : ∀ f ∈ fields, Carried levels f.2) : Carried (levels + 1) (.object fields)

/-- Whether a layout puts nothing but space between tokens. -/
def Layout.IsBlank : Layout → Prop
  | .line => True
  | .indented unit => ∀ c ∈ unit, isSpace c = true

/-! ## Space -/

section space

variable {layout : Layout} {depth : Nat} {cs rest : List Char}

theorem Layout.isBlank_spaces (n : Nat) : (Layout.spaces n).IsBlank := by
  intro c hc
  rw [List.eq_of_mem_replicate hc]
  rfl

theorem skip_append {bs : List Char} (h : ∀ c ∈ bs, isSpace c = true) (cs : List Char) :
    skip (bs ++ cs) = skip cs :=
  List.dropWhile_append_of_pos h

theorem skip_cons {c : Char} (h : isSpace c = false) (cs : List Char) :
    skip (c :: cs) = c :: cs :=
  List.dropWhile_cons_of_neg (by rw [h]; exact Bool.false_ne_true)

theorem isSpace_of_mem_lineBreak (h : layout.IsBlank) (depth : Nat) :
    ∀ c ∈ layout.lineBreak depth, isSpace c = true := by
  cases layout with
  | line => simp [Layout.lineBreak]
  | indented unit =>
    intro c hc
    rcases List.mem_cons.1 hc with rfl | hc
    · rfl
    · obtain ⟨copy, hcopy, hc⟩ := List.mem_flatten.1 hc
      rw [List.eq_of_mem_replicate hcopy] at hc
      exact h c hc

theorem skip_lineBreak (h : layout.IsBlank) (depth : Nat) (cs : List Char) :
    skip (layout.lineBreak depth ++ cs) = skip cs :=
  skip_append (isSpace_of_mem_lineBreak h depth) cs

theorem exists_separator (h : layout.IsBlank) (depth : Nat) :
    ∃ bs, layout.separator depth = ',' :: bs ∧ ∀ c ∈ bs, isSpace c = true := by
  cases layout with
  | line => exact ⟨[' '], rfl, by simp [isSpace]⟩
  | indented unit => exact ⟨_, rfl, isSpace_of_mem_lineBreak h depth⟩

theorem endsNumber_cons {c : Char} (h : c.isDigit = false ∧ c ≠ '.' ∧ c ≠ 'e' ∧ c ≠ 'E')
    (cs : List Char) : EndsNumber (c :: cs) := by
  rintro _ ⟨⟩
  exact h

theorem endsNumber_of_space (h : ∀ c ∈ cs, isSpace c = true) : EndsNumber cs := by
  cases cs with
  | nil => simp [EndsNumber]
  | cons c cs =>
    have hspace := h c List.mem_cons_self
    simp only [isSpace, Bool.or_eq_true, decide_eq_true_eq] at hspace
    rcases hspace with ((rfl | rfl) | rfl) | rfl
    all_goals exact endsNumber_cons (by decide) _

theorem endsNumber_lineBreak (layout : Layout) (depth : Nat) (hrest : EndsNumber rest) :
    EndsNumber (layout.lineBreak depth ++ rest) := by
  cases layout with
  | line => exact hrest
  | indented unit => exact endsNumber_cons (by decide) _

end space

/-! ## Words and numbers -/

theorem readValue_word {c : Char} {cs : List Char} {found : Value × List Char}
    (hc : c ≠ '\x22' ∧ c ≠ '\x7b' ∧ c ≠ '[') (h : readWord? (c :: cs) = some found)
    (levels fuel : Nat) : readValue levels (fuel + 1) (c :: cs) = .ok found := by
  rw [readValue, h]
  all_goals simp_all

theorem readValue_number {c : Char} {cs : List Char} (hc : c ≠ '\x22' ∧ c ≠ '\x7b' ∧ c ≠ '[')
    (h : readWord? (c :: cs) = none) (levels fuel : Nat) :
    readValue levels (fuel + 1) (c :: cs) = readNumber (c :: cs) := by
  rw [readValue, h]
  all_goals simp_all

theorem ne_of_isDigit {c l : Char} (hc : c.isDigit = true) (hl : l.isDigit = false) : l ≠ c := by
  rintro rfl
  rw [hc] at hl
  cases hl

theorem readWord?_digit {c : Char} (h : c.isDigit = true) (cs : List Char) :
    readWord? (c :: cs) = none := by
  simp [readWord?, wordValues, dropWord?, ne_of_isDigit h]

theorem readWord?_minus {c : Char} (h : c.isDigit = true) (cs : List Char) :
    readWord? ('-' :: c :: cs) = none := by
  simp [readWord?, wordValues, dropWord?, ne_of_isDigit h]

/-- An integer begins with a digit, or with a sign and a digit. -/
theorem exists_toString_cons (n : Int) :
    ∃ c cs, (toString n).toList = c :: cs ∧
      (c.isDigit = true ∨ c = '-' ∧ ∃ d ds, cs = d :: ds ∧ d.isDigit = true) := by
  obtain ⟨d, ds, hdigits⟩ := List.exists_cons_of_ne_nil (Nat.toDigits_ne_nil (n := n.natAbs))
  have hd : d.isDigit = true := isDigit_of_mem_toDigits (hdigits ▸ List.mem_cons_self)
  rw [toList_toString, hdigits, sign]
  split
  · exact ⟨'-', d :: ds, rfl, Or.inr ⟨rfl, d, ds, rfl, hd⟩⟩
  · exact ⟨d, ds, rfl, Or.inl hd⟩

theorem readValue_toString {n : Int} {rest : List Char} (hrest : EndsNumber rest)
    (hlimit : (Nat.toDigits 10 n.natAbs).length ≤ Numeral.digitLimit) (levels fuel : Nat) :
    readValue levels (fuel + 1) ((toString n).toList ++ rest) = .ok (.int n, rest) := by
  have hread := readNumber_toString hrest hlimit
  obtain ⟨c, cs, hcs, hstart⟩ := exists_toString_cons n
  rw [hcs, List.cons_append] at hread ⊢
  rcases hstart with hc | ⟨rfl, d, ds, rfl, hd⟩
  · have hplain : c ≠ '\x22' ∧ c ≠ '\x7b' ∧ c ≠ '[' :=
      ⟨(ne_of_isDigit hc rfl).symm, (ne_of_isDigit hc rfl).symm, (ne_of_isDigit hc rfl).symm⟩
    rw [readValue_number hplain (readWord?_digit hc _), hread]
  · rw [List.cons_append] at hread ⊢
    rw [readValue_number (by decide) (readWord?_minus hd _), hread]

/-! ## Members -/

/-- The text of a value is read as that value, at any depth and whatever follows it, if that
does not go on with a number. -/
def ReadsBack (layout : Layout) (levels : Nat) (v : Value) : Prop :=
  ∀ (depth fuel : Nat) (rest : List Char), EndsNumber rest →
    (writeValue layout depth v).length ≤ fuel →
    readValue levels fuel (writeValue layout depth v ++ rest) = .ok (v, rest)

/-- The text of a value is not empty and does not begin like something else that may stand in
its place: space, or the end of a list. -/
theorem exists_writeValue_cons {levels : Nat} {v : Value} (h : Carried levels v)
    (layout : Layout) (depth : Nat) :
    ∃ c cs, writeValue layout depth v = c :: cs ∧ isSpace c = false ∧ c ≠ ']' ∧ c ≠ '\ufeff' := by
  cases h with
  | null => exact ⟨'n', _, rfl, by decide⟩
  | bool levels b =>
    cases b with
    | true => exact ⟨'t', _, rfl, by decide⟩
    | false => exact ⟨'f', _, rfl, by decide⟩
  | @int levels n hlimit =>
    obtain ⟨c, cs, hcs, hstart⟩ := exists_toString_cons n
    refine ⟨c, cs, hcs, ?_⟩
    rcases hstart with hc | ⟨rfl, -⟩
    · simp [isSpace, (ne_of_isDigit hc _).symm]
    · decide
  | text => exact ⟨'\x22', _, rfl, by decide⟩
  | @list levels vs hvs =>
    cases vs with
    | nil => exact ⟨'[', _, rfl, by decide⟩
    | cons v vs => exact ⟨'[', _, rfl, by decide⟩
  | @object levels fields hnames htexts hvalues =>
    cases fields with
    | nil => exact ⟨'\x7b', _, rfl, by decide⟩
    | cons field fields => exact ⟨'\x7b', _, rfl, by decide⟩

section members

variable {layout : Layout} {levels : Nat}

theorem skip_writeValue {v : Value} (h : Carried levels v) (depth : Nat) (rest : List Char) :
    skip (writeValue layout depth v ++ rest) = writeValue layout depth v ++ rest := by
  obtain ⟨c, cs, hcs, hspace, -⟩ := exists_writeValue_cons h layout depth
  rw [hcs, List.cons_append]
  exact skip_cons hspace _

theorem ReadsBack.after_space {v : Value} (hback : ReadsBack layout levels v)
    (h : Carried levels v) {depth fuel : Nat} {rest : List Char} (hrest : EndsNumber rest)
    (hfuel : (writeValue layout depth v).length ≤ fuel) :
    readValue levels fuel (skip (' ' :: (writeValue layout depth v ++ rest))) = .ok (v, rest) := by
  have hspace : ∀ c ∈ [' '], isSpace c = true := by simp [isSpace]
  rw [← List.singleton_append, skip_append hspace, skip_writeValue h]
  exact hback depth fuel rest hrest hfuel

theorem skip_writeText (name : String) (rest : List Char) :
    skip (writeText name ++ rest) = writeText name ++ rest :=
  skip_cons rfl _

/-! ### Steps of reading -/

section steps

variable {fuel : Nat} {cs after rest : List Char} {v : Value}

theorem readItems_last {acc : List Value} (hv : readValue levels fuel cs = .ok (v, after))
    (hafter : skip after = ']' :: rest) :
    readItems levels (fuel + 1) acc cs = .ok (.list (v :: acc).reverse, rest) := by
  rw [readItems, hv]
  simp only [bind, Except.bind, hafter]

theorem readItems_next {acc : List Value} (hv : readValue levels fuel cs = .ok (v, after))
    (hafter : skip after = ',' :: rest) :
    readItems levels (fuel + 1) acc cs = readItems levels fuel (v :: acc) (skip rest) := by
  rw [readItems, hv]
  simp only [bind, Except.bind, hafter]

variable {acc : Fields} {name : String}

theorem readFields_last (hname : Text.hasHalf name = false)
    (hv : readValue levels fuel (skip cs) = .ok (v, after))
    (hafter : skip after = '\x7d' :: rest) :
    readFields levels (fuel + 1) acc (writeText name ++ ':' :: cs) =
      .ok (.object (acc.set name v), rest) := by
  rw [writeText_append, readFields, readText_body _ hname]
  simp only [bind, Except.bind, skip_cons (show isSpace ':' = false by decide), hv, hafter]

theorem readFields_next (hname : Text.hasHalf name = false)
    (hv : readValue levels fuel (skip cs) = .ok (v, after))
    (hafter : skip after = ',' :: rest) :
    readFields levels (fuel + 1) acc (writeText name ++ ':' :: cs) =
      readFields levels fuel (acc.set name v) (skip rest) := by
  rw [writeText_append, readFields, readText_body _ hname]
  simp only [bind, Except.bind, skip_cons (show isSpace ':' = false by decide), hv, hafter]

end steps

/-! ### All members -/

theorem readItems_writeItems (hlayout : layout.IsBlank) {v : Value} {vs : List Value}
    (hcarried : ∀ w ∈ v :: vs, Carried levels w) (hback : ∀ w ∈ v :: vs, ReadsBack layout levels w)
    (depth outer : Nat) (rest : List Char) (acc : List Value) {fuel : Nat}
    (hfuel : (writeValue layout depth v).length + (writeItems layout depth vs).length < fuel) :
    readItems levels fuel acc (writeValue layout depth v ++ (writeItems layout depth vs ++
      (layout.lineBreak outer ++ ']' :: rest))) = .ok (.list (acc.reverse ++ v :: vs), rest) := by
  induction vs generalizing v acc fuel with
  | nil =>
    obtain ⟨fuel, rfl⟩ := Nat.exists_eq_succ_of_ne_zero (Nat.ne_zero_of_lt hfuel)
    have hends : EndsNumber (layout.lineBreak outer ++ ']' :: rest) :=
      endsNumber_lineBreak layout outer (endsNumber_cons (by decide) rest)
    have hv := hback v List.mem_cons_self depth fuel _ hends (by omega)
    have hafter : skip (layout.lineBreak outer ++ ']' :: rest) = ']' :: rest := by
      rw [skip_lineBreak hlayout, skip_cons rfl]
    rw [writeItems, List.nil_append, readItems_last hv hafter, List.reverse_cons]
  | cons w vs ih =>
    obtain ⟨fuel, rfl⟩ := Nat.exists_eq_succ_of_ne_zero (Nat.ne_zero_of_lt hfuel)
    obtain ⟨hv, hrest⟩ := List.forall_mem_cons.1 hback
    obtain ⟨-, hcarried⟩ := List.forall_mem_cons.1 hcarried
    -- A comma, then space only: the reader is at the next value.
    obtain ⟨bs, hsep, hbs⟩ := exists_separator hlayout depth
    have hlength : (writeItems layout depth (w :: vs)).length =
        bs.length + 1 + (writeValue layout depth w).length +
          (writeItems layout depth vs).length := by
      rw [writeItems, hsep, List.length_append, List.length_append, List.length_cons]
    rw [writeItems, hsep, List.append_assoc, List.append_assoc, List.cons_append]
    rw [readItems_next (hv depth fuel _ (endsNumber_cons (by decide) _) (by omega))
      (skip_cons rfl _), skip_append hbs, skip_writeValue (hcarried w List.mem_cons_self),
      ih hcarried hrest _ (by omega), List.reverse_cons, List.append_assoc, List.singleton_append]

theorem set_of_not_mem {acc : Fields} {name : String} (h : name ∉ acc.map (·.1)) (v : Value) :
    acc.set name v = acc ++ [(name, v)] := by
  induction acc with
  | nil => rfl
  | cons field acc ih =>
    rw [List.map_cons, List.mem_cons, not_or] at h
    rw [Fields.set, if_neg (Ne.symm h.1), ih h.2, List.cons_append]

theorem not_mem_of_nodup {acc fields : Fields} {name : String} {v : Value}
    (h : ((acc ++ (name, v) :: fields).map (·.1)).Nodup) : name ∉ acc.map (·.1) := by
  rw [List.map_append, List.nodup_append] at h
  exact fun hmem => h.2.2 name hmem name List.mem_cons_self rfl

theorem readFields_writeFields (hlayout : layout.IsBlank) {name : String} {v : Value}
    {fields : Fields} (htexts : ∀ n ∈ ((name, v) :: fields).map (·.1), Text.hasHalf n = false)
    (hcarried : ∀ f ∈ (name, v) :: fields, Carried levels f.2)
    (hback : ∀ f ∈ (name, v) :: fields, ReadsBack layout levels f.2)
    (depth outer : Nat) (rest : List Char) (acc : Fields)
    (hnames : ((acc ++ (name, v) :: fields).map (·.1)).Nodup) {fuel : Nat}
    (hfuel : (writeValue layout depth v).length + (writeFields layout depth fields).length < fuel) :
    readFields levels fuel acc (writeText name ++ (':' :: ' ' :: (writeValue layout depth v ++
      (writeFields layout depth fields ++ (layout.lineBreak outer ++ '\x7d' :: rest))))) =
        .ok (.object (acc ++ (name, v) :: fields), rest) := by
  induction fields generalizing name v acc fuel with
  | nil =>
    obtain ⟨fuel, rfl⟩ := Nat.exists_eq_succ_of_ne_zero (Nat.ne_zero_of_lt hfuel)
    have hends : EndsNumber (layout.lineBreak outer ++ '\x7d' :: rest) :=
      endsNumber_lineBreak layout outer (endsNumber_cons (by decide) rest)
    obtain ⟨hname, -⟩ := List.forall_mem_cons.1 htexts
    obtain ⟨hcarried, -⟩ := List.forall_mem_cons.1 hcarried
    obtain ⟨(hback : ReadsBack layout levels v), -⟩ := List.forall_mem_cons.1 hback
    have hafter : skip (layout.lineBreak outer ++ '\x7d' :: rest) = '\x7d' :: rest := by
      rw [skip_lineBreak hlayout, skip_cons rfl]
    rw [writeFields, List.nil_append,
      readFields_last hname (hback.after_space hcarried hends (by omega)) hafter,
      set_of_not_mem (not_mem_of_nodup hnames)]
  | cons field fields ih =>
    obtain ⟨fuel, rfl⟩ := Nat.exists_eq_succ_of_ne_zero (Nat.ne_zero_of_lt hfuel)
    obtain ⟨next, w⟩ := field
    obtain ⟨hname, htexts⟩ := List.forall_mem_cons.1 htexts
    obtain ⟨hv, hcarried⟩ := List.forall_mem_cons.1 hcarried
    obtain ⟨(hback : ReadsBack layout levels v), hbacks⟩ := List.forall_mem_cons.1 hback
    obtain ⟨bs, hsep, hbs⟩ := exists_separator hlayout depth
    have hlength : (writeFields layout depth ((next, w) :: fields)).length =
        bs.length + 1 + (writeText next).length + 2 + (writeValue layout depth w).length +
          (writeFields layout depth fields).length := by
      rw [writeFields, hsep]
      simp only [List.length_append, List.length_cons]
      omega
    -- No field before has this name, so it is set at the end.
    have hset := set_of_not_mem (not_mem_of_nodup hnames) v
    rw [List.append_cons] at hnames
    rw [writeFields, hsep]
    simp only [List.append_assoc, List.cons_append]
    rw [readFields_next hname (hback.after_space hv (endsNumber_cons (by decide) _) (by omega))
      (skip_cons rfl _), skip_append hbs, skip_writeText, hset,
      ih htexts hcarried hbacks _ hnames (by omega), List.append_assoc, List.singleton_append]

/-! ### Lists and objects -/

section containers

variable {fuel : Nat} {cs after : List Char}

theorem readValue_emptyList (rest : List Char) :
    readValue (levels + 1) (fuel + 1) ('[' :: ']' :: rest) = .ok (.list [], rest) := by
  rw [readValue, if_neg (Nat.succ_ne_zero levels), skip_cons rfl]
  rfl

theorem readValue_list (hcs : skip cs = after) (hafter : after.head? ≠ some ']') :
    readValue (levels + 1) (fuel + 1) ('[' :: cs) = readItems levels fuel [] after := by
  rw [readValue, if_neg (Nat.succ_ne_zero levels), hcs]
  split
  · exact absurd rfl hafter
  · rfl

theorem readValue_emptyObject (rest : List Char) :
    readValue (levels + 1) (fuel + 1) ('\x7b' :: '\x7d' :: rest) = .ok (.object [], rest) := by
  rw [readValue, if_neg (Nat.succ_ne_zero levels), skip_cons rfl]
  rfl

theorem readValue_object (hcs : skip cs = after) (hafter : after.head? ≠ some '\x7d') :
    readValue (levels + 1) (fuel + 1) ('\x7b' :: cs) = readFields levels fuel [] after := by
  rw [readValue, if_neg (Nat.succ_ne_zero levels), hcs]
  split
  · exact absurd rfl hafter
  · rfl

end containers

theorem readsBack_of_succ {v : Value} (h : Carried levels v)
    (hread : ∀ depth fuel rest, EndsNumber rest → (writeValue layout depth v).length ≤ fuel + 1 →
      readValue levels (fuel + 1) (writeValue layout depth v ++ rest) = .ok (v, rest)) :
    ReadsBack layout levels v := by
  intro depth fuel rest hrest hfuel
  obtain ⟨c, cs, hcs, -⟩ := exists_writeValue_cons h layout depth
  have hpos : 0 < (writeValue layout depth v).length := by
    rw [hcs]
    exact Nat.succ_pos _
  obtain ⟨fuel, rfl⟩ := Nat.exists_eq_add_one.2 (Nat.lt_of_lt_of_le hpos hfuel)
  exact hread depth fuel rest hrest hfuel

theorem readsBack_list (hlayout : layout.IsBlank) {vs : List Value}
    (hcarried : ∀ v ∈ vs, Carried levels v) (hback : ∀ v ∈ vs, ReadsBack layout levels v) :
    ReadsBack layout (levels + 1) (.list vs) := by
  refine readsBack_of_succ (.list hcarried) fun depth fuel rest hrest hfuel => ?_
  cases vs with
  | nil => exact readValue_emptyList rest
  | cons v vs =>
    have hv := hcarried v List.mem_cons_self
    have hskip (text : List Char) : skip (layout.lineBreak (depth + 1) ++
        (writeValue layout (depth + 1) v ++ text)) = writeValue layout (depth + 1) v ++ text := by
      rw [skip_lineBreak hlayout, skip_writeValue hv]
    have hhead (text : List Char) :
        (writeValue layout (depth + 1) v ++ text).head? ≠ some ']' := by
      obtain ⟨c, cs, hcs, -, hc, -⟩ := exists_writeValue_cons hv layout (depth + 1)
      rw [hcs]
      exact fun h => hc (Option.some.inj h)
    rw [writeValue] at hfuel ⊢
    simp only [List.append_assoc, List.cons_append, List.nil_append, List.length_append,
      List.length_cons, List.length_nil] at hfuel ⊢
    rw [readValue_list (hskip _) (hhead _),
      readItems_writeItems hlayout hcarried hback (depth + 1) depth rest [] (by omega)]
    rfl

theorem readsBack_object (hlayout : layout.IsBlank) {fields : Fields}
    (hnames : (fields.map (·.1)).Nodup)
    (htexts : ∀ name ∈ fields.map (·.1), Text.hasHalf name = false)
    (hcarried : ∀ f ∈ fields, Carried levels f.2)
    (hback : ∀ f ∈ fields, ReadsBack layout levels f.2) :
    ReadsBack layout (levels + 1) (.object fields) := by
  refine readsBack_of_succ (.object hnames htexts hcarried) fun depth fuel rest hrest hfuel => ?_
  cases fields with
  | nil => exact readValue_emptyObject rest
  | cons field fields =>
    obtain ⟨name, v⟩ := field
    have hskip (text : List Char) : skip (layout.lineBreak (depth + 1) ++
        (writeText name ++ text)) = writeText name ++ text := by
      rw [skip_lineBreak hlayout, skip_writeText]
    have hhead (text : List Char) : (writeText name ++ text).head? ≠ some '\x7d' := by
      rw [writeText_append, List.head?_cons]
      decide
    rw [writeValue] at hfuel ⊢
    simp only [List.append_assoc, List.cons_append, List.nil_append, List.length_append,
      List.length_cons, List.length_nil] at hfuel ⊢
    rw [readValue_object (hskip _) (hhead _),
      readFields_writeFields hlayout htexts hcarried hback (depth + 1) depth rest [] hnames
        (by omega)]
    rfl

end members

/-! ## Data -/

/-- Data that JSON carries is read as it was written, whatever follows it. -/
theorem readsBack_of_carried {layout : Layout} (hlayout : layout.IsBlank) {levels : Nat} {v : Value}
    (h : Carried levels v) : ReadsBack layout levels v := by
  induction h with
  | null levels =>
    exact readsBack_of_succ (.null levels) fun _ fuel _ _ _ =>
      readValue_word (by decide) rfl levels fuel
  | bool levels b =>
    refine readsBack_of_succ (.bool levels b) fun _ fuel _ _ _ => ?_
    cases b with
    | true => exact readValue_word (by decide) rfl levels fuel
    | false => exact readValue_word (by decide) rfl levels fuel
  | int levels hlimit =>
    refine readsBack_of_succ (.int levels hlimit) fun _ fuel _ hrest _ => ?_
    rw [writeValue]
    exact readValue_toString hrest hlimit levels fuel
  | text levels hs =>
    refine readsBack_of_succ (.text levels hs) fun _ fuel _ _ _ => ?_
    rw [writeValue, writeText_append, readValue, readText_body _ hs]
    rfl
  | list hcarried ih => exact readsBack_list hlayout hcarried ih
  | object hnames htexts hcarried ih =>
    exact readsBack_object hlayout hnames htexts hcarried ih

/-- Data that JSON carries within the reader's limit on containers is what its text is read as,
also when space follows. -/
theorem parse_write_append {layout : Layout} (hlayout : layout.IsBlank) {v : Value}
    (h : Carried depthLimit v) {bs : List Char} (hbs : ∀ c ∈ bs, isSpace c = true) :
    parse (write layout v ++ String.ofList bs) = .ok v := by
  obtain ⟨c, cs, hcs, hspace, -, hmark⟩ := exists_writeValue_cons h layout 0
  have hread : readWhole (writeValue layout 0 v ++ bs) = .ok v := by
    have hback := readsBack_of_carried hlayout h 0 (2 * (writeValue layout 0 v ++ bs).length + 2)
      bs (endsNumber_of_space hbs) (by rw [List.length_append]; omega)
    have hend : skip bs = [] := by
      rw [← List.append_nil bs, skip_append hbs, skip, List.dropWhile_nil]
    rw [readWhole, skip_writeValue h, hback]
    simp only [bind, Except.bind, hend]
    rfl
  rw [parse, write, String.toList_append, String.toList_ofList, String.toList_ofList]
  split
  · next heq =>
    rw [hcs] at heq
    exact absurd (List.cons.inj heq).1 hmark
  · rw [hread]
    rfl

/-- **Round trip.**  Data that JSON carries within the reader's limit on containers is what its
text is read as, in every layout that puts nothing but space between tokens. -/
theorem parse_write {layout : Layout} (hlayout : layout.IsBlank) {v : Value}
    (h : Carried depthLimit v) : parse (write layout v) = .ok v := by
  rw [← parse_write_append hlayout h (List.forall_mem_nil _), String.ofList_nil,
    String.append_empty]

end Attest.Json
