import Attest.Proofs.Json.RoundTrip

/-!
# Where the JSON reader stops

Besides text that is no JSON there are two things that the reader stops at: an integer of too
many digits and a container within too many others.  Both can be seen in the text without
reading it: such a text has a long run of digits, or many opening brackets (`Within`).  What
is left to read is always an end of the text, so what holds of the rest holds of the whole,
and each level of containers takes one bracket more.
-/

namespace Attest.Json

/-- A run of `n` decimal digits stands in the characters. -/
def HasDigits (n : Nat) (cs : List Char) : Prop :=
  ∃ ds, ds <:+: cs ∧ ds.length = n ∧ ∀ c ∈ ds, c.isDigit = true

/-- Whether a character opens a container. -/
def isOpening (c : Char) : Bool :=
  c = '\x7b' || c = '['

/-- What reading at the characters `cs` comes to, with room for `depth` containers: a value and
an end of the characters, or a stop of which the reason stands in them. -/
def Within {α : Type} (depth : Nat) (cs : List Char) : Except Stop (α × List Char) → Prop
  | .ok (_, rest) => rest <:+ cs
  | .error (.malformed _ _) => True
  | .error (.tooLong digits) => Numeral.digitLimit < digits ∧ HasDigits digits cs
  | .error (.tooDeep _) => depth < cs.countP isOpening

section within

variable {α β : Type} {depth : Nat} {cs rest : List Char}

theorem HasDigits.of_suffix {n : Nat} (h : HasDigits n rest) (hrest : rest <:+ cs) :
    HasDigits n cs := by
  obtain ⟨ds, hds, hlength, hdigits⟩ := h
  exact ⟨ds, hds.trans hrest.isInfix, hlength, hdigits⟩

/-- What holds of an end of the characters holds of all of them. -/
theorem Within.of_suffix {r : Except Stop (α × List Char)} (h : Within depth rest r)
    (hrest : rest <:+ cs) : Within depth cs r := by
  match r, h with
  | .ok (_, _), h => exact List.IsSuffix.trans h hrest
  | .error (.malformed _ _), _ => trivial
  | .error (.tooLong _), h => exact ⟨h.1, h.2.of_suffix hrest⟩
  | .error (.tooDeep _), h => exact Nat.lt_of_lt_of_le h (hrest.sublist.countP_le)

/-- Behind an opening bracket there is room for one container less. -/
theorem Within.opening {c : Char} {r : Except Stop (α × List Char)} (hc : isOpening c = true)
    (h : Within depth rest r) : Within (depth + 1) (c :: rest) r := by
  match r, h with
  | .ok (_, _), h => exact List.IsSuffix.trans h (List.suffix_cons c rest)
  | .error (.malformed _ _), _ => trivial
  | .error (.tooLong _), h => exact ⟨h.1, h.2.of_suffix (List.suffix_cons c rest)⟩
  | .error (.tooDeep _), h =>
    have hrest : depth < rest.countP isOpening := h
    show depth + 1 < (c :: rest).countP isOpening
    rw [List.countP_cons_of_pos hc]
    omega

/-- Reading goes on at the end that is left. -/
theorem Within.bind {x : Except Stop (α × List Char)}
    {f : α × List Char → Except Stop (β × List Char)}
    (hx : Within depth cs x)
    (hf : ∀ a rest, x = .ok (a, rest) → Within depth rest (f (a, rest))) :
    Within depth cs (x >>= f) := by
  match x, hx with
  | .ok (a, rest), hx => exact (hf a rest rfl).of_suffix hx
  | .error (.malformed _ _), _ => trivial
  | .error (.tooLong _), hx => exact hx
  | .error (.tooDeep _), hx => exact hx

theorem within_expecting (words : String) (left : List Char) :
    Within (α := α) depth cs (expecting words left) :=
  trivial

theorem skip_suffix (cs : List Char) : skip cs <:+ cs :=
  List.dropWhile_suffix _

end within

/-! ## Texts -/

theorem within_readText (depth : Nat) (opening : List Char) (high : Option Nat)
    (acc cs : List Char) : Within depth cs (readText opening high acc cs) := by
  fun_induction readText opening high acc cs with
  | case1 => exact within_expecting _ _
  | case2 => exact List.suffix_cons _ _
  | case3 => exact within_expecting _ _
  | case4 high acc a b c d e rest v hv high' acc' hadd ih =>
    exact ih.of_suffix ⟨['\x5c', 'u', a, b, c, d], rfl⟩
  | case5 => exact within_expecting _ _
  | case6 => exact within_expecting _ _
  | case7 => exact within_expecting _ _
  | case8 high acc c rest _ hu x hx ih => exact ih.of_suffix ⟨['\x5c', c], rfl⟩
  | case9 => exact within_expecting _ _
  | case10 high acc c rest _ _ _ _ hprint ih => exact ih.of_suffix (List.suffix_cons c rest)

/-! ## Numbers -/

theorem wholeDigits_eq_some {cs whole rest : List Char} (h : wholeDigits cs = some (whole, rest)) :
    cs = whole ++ rest ∧ ∀ c ∈ whole, c.isDigit = true := by
  unfold wholeDigits at h
  split at h
  · cases h
  · next c cs =>
    split at h
    · next hc =>
      cases h
      rw [hc]
      exact ⟨rfl, List.forall_mem_singleton.2 rfl⟩
    · split at h
      · next hdigit =>
        cases h
        refine ⟨?_, List.forall_mem_cons.2 ⟨hdigit, fun d hd => ?_⟩⟩
        · rw [List.cons_append, List.takeWhile_append_dropWhile]
        · exact List.all_eq_true.1 List.all_takeWhile d hd
      · cases h

theorem fractionDigits_suffix (cs : List Char) : (fractionDigits cs).2 <:+ cs := by
  unfold fractionDigits
  split
  · next d rest =>
    split
    · exact (List.dropWhile_suffix _).trans ⟨['.', d], rfl⟩
    · exact List.suffix_rfl
  · exact List.suffix_rfl

theorem exponentPart_suffix (cs : List Char) : (exponentPart cs).2 <:+ cs := by
  unfold exponentPart
  split
  · exact List.suffix_rfl
  · next c rest =>
    split
    · -- The digits of the exponent stand behind a minus sign, a plus sign or none.
      dsimp only
      split
      · dsimp only
        split
        · exact List.suffix_rfl
        · exact (List.dropWhile_suffix _).trans ⟨[c, '-'], rfl⟩
      · dsimp only
        split
        · exact List.suffix_rfl
        · exact (List.dropWhile_suffix _).trans ⟨[c, '+'], rfl⟩
      · dsimp only
        split
        · exact List.suffix_rfl
        · exact (List.dropWhile_suffix _).trans (List.suffix_cons c rest)
    · exact List.suffix_rfl

theorem within_readNumber (depth : Nat) (cs : List Char) : Within depth cs (readNumber cs) := by
  unfold readNumber
  split
  next negative digits hsigned =>
  have hsign : digits <:+ cs := by
    split at hsigned
    · cases hsigned
      exact List.suffix_cons _ _
    · cases hsigned
      exact List.suffix_rfl
  split
  · exact within_expecting _ _
  · next whole rest hwhole =>
    obtain ⟨hcs, hdigits⟩ := wholeDigits_eq_some hwhole
    have hrest : (exponentPart (fractionDigits rest).2).2 <:+ cs := by
      have hend := (exponentPart_suffix _).trans (fractionDigits_suffix rest)
      exact (hend.trans ⟨whole, hcs.symm⟩).trans hsign
    dsimp only
    split
    · split
      · next hlong =>
        refine ⟨hlong, whole, ?_, rfl, hdigits⟩
        exact List.IsInfix.trans ⟨[], rest, hcs.symm⟩ hsign.isInfix
      · exact hrest
    · exact hrest

/-! ## Values -/

theorem dropWord?_suffix {word cs rest : List Char} (h : dropWord? word cs = some rest) :
    rest <:+ cs := by
  fun_induction dropWord? word cs with
  | case1 => cases h; exact List.suffix_rfl
  | case2 => cases h
  | case3 ws c cs ih => exact (ih h).trans (List.suffix_cons c cs)
  | case4 => cases h

theorem readWord?_suffix {cs rest : List Char} {v : Value} (h : readWord? cs = some (v, rest)) :
    rest <:+ cs := by
  obtain ⟨⟨word, w⟩, -, hword⟩ := List.exists_of_findSome?_eq_some h
  obtain ⟨tail, htail, heq⟩ := Option.map_eq_some_iff.1 hword
  cases heq
  exact dropWord?_suffix htail

/-- What the readers of values, of fields and of items come to with so much fuel. -/
structure ReadersWithin (fuel : Nat) : Prop where
  value : ∀ depth cs, Within depth cs (readValue depth fuel cs)
  fields : ∀ depth acc cs, Within depth cs (readFields depth fuel acc cs)
  items : ∀ depth acc cs, Within depth cs (readItems depth fuel acc cs)

section step

variable {fuel : Nat} (ih : ReadersWithin fuel) (depth : Nat)
include ih

theorem within_readValue_succ (cs : List Char) :
    Within depth cs (readValue depth (fuel + 1) cs) := by
  unfold readValue
  split
  · next rest =>
    refine ((within_readText depth _ none [] rest).of_suffix (List.suffix_cons _ rest)).bind ?_
    exact fun s rest _ => List.suffix_rfl
  · next rest =>
    cases depth with
    | zero =>
      rw [if_pos rfl]
      show 0 < ('\x7b' :: rest).countP isOpening
      rw [List.countP_cons_of_pos rfl]
      omega
    | succ depth =>
      rw [if_neg (Nat.succ_ne_zero depth)]
      refine Within.opening rfl ?_
      split
      · next after hskip =>
        exact (List.suffix_cons _ after).trans (hskip ▸ skip_suffix rest)
      · exact (ih.fields depth [] _).of_suffix (skip_suffix rest)
  · next rest =>
    cases depth with
    | zero =>
      rw [if_pos rfl]
      show 0 < ('[' :: rest).countP isOpening
      rw [List.countP_cons_of_pos rfl]
      omega
    | succ depth =>
      rw [if_neg (Nat.succ_ne_zero depth)]
      refine Within.opening rfl ?_
      split
      · next after hskip =>
        exact (List.suffix_cons _ after).trans (hskip ▸ skip_suffix rest)
      · exact (ih.items depth [] _).of_suffix (skip_suffix rest)
  · split
    · next found hword => exact readWord?_suffix hword
    · exact within_readNumber depth cs

theorem within_readFields_succ (acc : Fields) (cs : List Char) :
    Within depth cs (readFields depth (fuel + 1) acc cs) := by
  unfold readFields
  split
  · next rest =>
    refine ((within_readText depth _ none [] rest).of_suffix (List.suffix_cons _ rest)).bind ?_
    intro name rest _
    dsimp only
    split
    · next after hcolon =>
      have hafter : skip after <:+ rest :=
        (skip_suffix after).trans ((List.suffix_cons _ after).trans (hcolon ▸ skip_suffix rest))
      refine ((ih.value depth (skip after)).of_suffix hafter).bind ?_
      intro v rest _
      dsimp only
      split
      · next last hlast => exact (List.suffix_cons _ last).trans (hlast ▸ skip_suffix rest)
      · next next hnext =>
        refine (ih.fields depth _ (skip next)).of_suffix ?_
        exact (skip_suffix next).trans ((List.suffix_cons _ next).trans (hnext ▸ skip_suffix rest))
      · exact within_expecting _ _
    · exact within_expecting _ _
  · exact within_expecting _ _

theorem within_readItems_succ (acc : List Value) (cs : List Char) :
    Within depth cs (readItems depth (fuel + 1) acc cs) := by
  unfold readItems
  refine (ih.value depth cs).bind ?_
  intro v rest _
  dsimp only
  split
  · next last hlast => exact (List.suffix_cons _ last).trans (hlast ▸ skip_suffix rest)
  · next next hnext =>
    refine (ih.items depth _ (skip next)).of_suffix ?_
    exact (skip_suffix next).trans ((List.suffix_cons _ next).trans (hnext ▸ skip_suffix rest))
  · exact within_expecting _ _

end step

theorem readersWithin (fuel : Nat) : ReadersWithin fuel := by
  induction fuel with
  | zero =>
    refine ⟨fun depth cs => ?_, fun depth acc cs => ?_, fun depth acc cs => ?_⟩
    · unfold readValue; exact within_expecting _ _
    · unfold readFields; exact within_expecting _ _
    · unfold readItems; exact within_expecting _ _
  | succ fuel ih =>
    exact ⟨within_readValue_succ ih, within_readFields_succ ih, within_readItems_succ ih⟩

/-! ## Whole texts -/

theorem within_readWhole {cs : List Char} {stop : Stop} (h : readWhole cs = .error stop) :
    Within (α := Value) depthLimit cs (.error stop) := by
  have hvalue : Within depthLimit cs (readValue depthLimit (2 * cs.length + 2) (skip cs)) :=
    ((readersWithin _).value depthLimit (skip cs)).of_suffix (skip_suffix cs)
  unfold readWhole at h
  cases hread : readValue depthLimit (2 * cs.length + 2) (skip cs) with
  | error e =>
    rw [hread] at h hvalue
    cases h
    exact hvalue
  | ok found =>
    rw [hread] at h
    dsimp only [bind, Except.bind] at h
    split at h
    · cases h
    · cases h
      trivial

section parse

variable {s : String}

theorem parse_eq_error {r : Refusal} (h : parse s = .error r) :
    (∃ words index line column, r = .malformed words index line column) ∨
      ∃ stop, readWhole s.toList = .error stop ∧ r = stop.inText s.toList := by
  unfold parse at h
  dsimp only at h
  split at h
  · cases h
    exact Or.inl ⟨_, _, _, _, rfl⟩
  · cases hread : readWhole s.toList with
    | ok v =>
      rw [hread] at h
      cases h
    | error stop =>
      rw [hread] at h
      exact Or.inr ⟨stop, rfl, (Except.error.inj h).symm⟩

/-- A text is refused for an integer only if as many digits stand in a row in it, more than the
reader takes. -/
theorem hasDigits_of_parse {digits : Nat} (h : parse s = .error (.tooLong digits)) :
    Numeral.digitLimit < digits ∧ HasDigits digits s.toList := by
  rcases parse_eq_error h with ⟨_, _, _, _, heq⟩ | ⟨stop, hread, heq⟩
  · cases heq
  · cases stop with
    | tooLong n =>
      cases heq
      exact within_readWhole hread
    | malformed => cases heq
    | tooDeep => cases heq

/-- A text is refused for its depth only if more containers open in it than may stand within one
another. -/
theorem depthLimit_lt_of_parse {container : Container}
    (h : parse s = .error (.tooDeep container)) : depthLimit < s.toList.countP isOpening := by
  rcases parse_eq_error h with ⟨_, _, _, _, heq⟩ | ⟨stop, hread, heq⟩
  · cases heq
  · cases stop with
    | tooDeep c => exact within_readWhole hread
    | malformed => cases heq
    | tooLong => cases heq

end parse

/-- A numeral alone of more digits than the reader takes is refused for their number. -/
theorem parse_numeral {c : Char} {ds : List Char} (hc : c.isDigit = true) (hzero : c ≠ '0')
    (hds : ∀ d ∈ ds, d.isDigit = true) (hlong : Numeral.digitLimit < (c :: ds).length) :
    parse (String.ofList (c :: ds)) = .error (.tooLong (c :: ds).length) := by
  have hne {l : Char} (hl : l.isDigit = false) : c ≠ l := (ne_of_isDigit hc hl).symm
  have hends : EndsNumber [] := by simp [EndsNumber]
  have hwhole : wholeDigits (c :: ds) = some (c :: ds, []) := by
    obtain ⟨htake, hdrop⟩ := takeWhile_digits hds hends
    rw [List.append_nil] at htake hdrop
    rw [wholeDigits, if_neg hzero, if_pos hc, htake, hdrop]
  have hnumber : readNumber (c :: ds) = .error (.tooLong (c :: ds).length) := by
    unfold readNumber
    split
    next hsplit =>
      split at hsplit
      · next heq => exact absurd (List.cons.inj heq).1 (hne rfl)
      · cases hsplit
        simp only [hwhole, fractionDigits_of_ends hends, exponentPart_of_ends hends]
        simp only [List.isEmpty_nil, Option.isNone_none, Bool.and_self, if_true, if_pos hlong]
  have hspace : isSpace c = false := by
    simp [isSpace, hne (l := ' ') rfl, hne (l := '\t') rfl, hne (l := '\n') rfl,
      hne (l := '\r') rfl]
  have hread : readWhole (c :: ds) = .error (.tooLong (c :: ds).length) := by
    rw [readWhole, skip_cons hspace, readValue_number ⟨hne rfl, hne rfl, hne rfl⟩
      (readWord?_digit hc ds), hnumber]
    rfl
  rw [parse, String.toList_ofList]
  split
  · next heq => exact absurd (List.cons.inj heq).1 (hne rfl)
  · rw [hread]
    rfl

end Attest.Json
