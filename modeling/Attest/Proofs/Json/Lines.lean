import Attest.Proofs.Json.RoundTrip
import Attest.Text.Lines
import Mathlib.Data.Bool.AllAny

/-!
# Written data in files of lines

A text file is read with other line ends turned into line feeds.  Written data has none of them:
texts are escaped, so that all of it is printable ASCII but what the layout puts between tokens
(`forall_mem_writeValue`).  So it comes back from a file as it was written.
-/

namespace Attest.Json

/-- Whether a character stands for itself in a written text, apart from quotes and backslashes. -/
def IsPrintable (c : Char) : Prop :=
  ' ' ≤ c ∧ c ≤ '~'

instance : DecidablePred IsPrintable := fun _ => inferInstanceAs (Decidable (_ ∧ _))

/-! ## Texts and numbers -/

theorem isPrintable_hexDigit (n : Nat) : IsPrintable (Hex.digit (n % 16)) := by
  have hall : ∀ n < 16, IsPrintable (Hex.digit n) := by decide
  exact hall _ (Nat.mod_lt n (by decide))

theorem isPrintable_of_isDigit {c : Char} (h : c.isDigit = true) : IsPrintable c := by
  have hbounds : (48 : UInt32) ≤ c.val ∧ c.val ≤ 57 := by simpa [Char.isDigit] using h
  rw [UInt32.le_iff_toNat_le, UInt32.le_iff_toNat_le] at hbounds
  obtain ⟨hlow, hhigh⟩ : 48 ≤ c.val.toNat ∧ c.val.toNat ≤ 57 := hbounds
  refine ⟨UInt32.le_iff_toNat_le.2 ?_, UInt32.le_iff_toNat_le.2 ?_⟩
  · show 32 ≤ c.val.toNat
    omega
  · show c.val.toNat ≤ 126
    omega

theorem forall_mem_unitEscape (v : Nat) : ∀ c ∈ unitEscape v, IsPrintable c := by
  rw [unitEscape_eq]
  simp only [List.forall_mem_cons]
  exact ⟨by decide, by decide, isPrintable_hexDigit _, isPrintable_hexDigit _,
    isPrintable_hexDigit _, isPrintable_hexDigit _, List.forall_mem_nil _⟩

theorem forall_mem_escape (c : Char) : ∀ d ∈ escape c, IsPrintable d := by
  unfold escape
  split
  · next hmeaning => rcases hmeaning with rfl | rfl <;> exact List.all_iff_forall_prop.1 (by decide)
  -- The characters that have a letter.
  iterate 5
    split
    · exact List.all_iff_forall_prop.1 (by decide)
  split
  · next hprint => exact List.forall_mem_singleton.2 hprint
  · dsimp only
    split
    · exact forall_mem_unitEscape _
    · intro d hd
      exact (List.mem_append.1 hd).elim (forall_mem_unitEscape _ d) (forall_mem_unitEscape _ d)

theorem forall_mem_writeText (s : String) : ∀ c ∈ writeText s, IsPrintable c := by
  intro c hc
  rw [writeText, List.cons_append, List.mem_cons, List.mem_append, List.mem_singleton] at hc
  rcases hc with rfl | hc | rfl
  · decide
  · obtain ⟨d, -, hc⟩ := List.mem_flatMap.1 hc
    exact forall_mem_escape d c hc
  · decide

theorem forall_mem_toString (n : Int) : ∀ c ∈ (toString n).toList, IsPrintable c := by
  intro c hc
  rw [toList_toString, List.mem_append] at hc
  rcases hc with hc | hc
  · rw [sign] at hc
    split at hc
    · rw [List.mem_singleton.1 hc]
      decide
    · cases hc
  · exact isPrintable_of_isDigit (isDigit_of_mem_toDigits hc)

/-! ## Data -/

section written

variable {layout : Layout} {levels : Nat} {P : Char → Prop}

theorem forall_mem_separator (hprint : ∀ c, IsPrintable c → P c)
    (hbreak : ∀ depth, ∀ c ∈ layout.lineBreak depth, P c) (depth : Nat) :
    ∀ c ∈ layout.separator depth, P c := by
  cases layout with
  | line =>
    rw [Layout.separator, List.forall_mem_cons, List.forall_mem_singleton]
    exact ⟨hprint _ (by decide), hprint _ (by decide)⟩
  | indented unit => exact List.forall_mem_cons.2 ⟨hprint _ (by decide), hbreak depth⟩

theorem forall_mem_writeItems (hprint : ∀ c, IsPrintable c → P c)
    (hbreak : ∀ depth, ∀ c ∈ layout.lineBreak depth, P c) {vs : List Value}
    (h : ∀ v ∈ vs, ∀ depth, ∀ c ∈ writeValue layout depth v, P c) (depth : Nat) :
    ∀ c ∈ writeItems layout depth vs, P c := by
  induction vs with
  | nil => exact List.forall_mem_nil _
  | cons v vs ih =>
    obtain ⟨hv, hvs⟩ := List.forall_mem_cons.1 h
    rw [writeItems, List.forall_mem_append, List.forall_mem_append]
    exact ⟨⟨forall_mem_separator hprint hbreak depth, hv depth⟩, ih hvs⟩

theorem forall_mem_writeFields (hprint : ∀ c, IsPrintable c → P c)
    (hbreak : ∀ depth, ∀ c ∈ layout.lineBreak depth, P c) {fields : Fields}
    (h : ∀ f ∈ fields, ∀ depth, ∀ c ∈ writeValue layout depth f.2, P c) (depth : Nat) :
    ∀ c ∈ writeFields layout depth fields, P c := by
  induction fields with
  | nil => exact List.forall_mem_nil _
  | cons field fields ih =>
    obtain ⟨name, v⟩ := field
    obtain ⟨hv, hfields⟩ := List.forall_mem_cons.1 h
    have hname : ∀ c ∈ writeText name, P c := fun c hc => hprint c (forall_mem_writeText name c hc)
    simp only [writeFields, List.forall_mem_append, List.forall_mem_cons]
    exact ⟨⟨⟨forall_mem_separator hprint hbreak depth, hname⟩, hprint _ (by decide),
      hprint _ (by decide), hv depth⟩, ih hfields⟩

/-- What is true of printable characters and of the line breaks of a layout is true of all that is
written. -/
theorem forall_mem_writeValue (hprint : ∀ c, IsPrintable c → P c)
    (hbreak : ∀ depth, ∀ c ∈ layout.lineBreak depth, P c) {v : Value} (h : Carried levels v)
    (depth : Nat) : ∀ c ∈ writeValue layout depth v, P c := by
  induction h generalizing depth with
  | null levels =>
    have hword : ∀ c ∈ "null".toList, IsPrintable c := List.all_iff_forall_prop.1 (by decide)
    exact fun c hc => hprint c (hword c hc)
  | bool levels b =>
    have hword : ∀ c ∈ (if b then "true" else "false").toList, IsPrintable c := by
      cases b <;> exact List.all_iff_forall_prop.1 (by decide)
    exact fun c hc => hprint c (hword c hc)
  | @int levels n hlimit => exact fun c hc => hprint c (forall_mem_toString n c hc)
  | @text levels s hs => exact fun c hc => hprint c (forall_mem_writeText s c hc)
  | @list levels vs hvs ih =>
    cases vs with
    | nil =>
      rw [writeValue, List.forall_mem_cons, List.forall_mem_singleton]
      exact ⟨hprint _ (by decide), hprint _ (by decide)⟩
    | cons v vs =>
      obtain ⟨hv, hrest⟩ := List.forall_mem_cons.1 ih
      simp only [writeValue, List.forall_mem_append, List.forall_mem_cons, List.cons_append]
      exact ⟨hprint _ (by decide), ⟨⟨⟨hbreak _, hv _⟩, forall_mem_writeItems hprint hbreak hrest _⟩,
        hbreak _⟩, hprint _ (by decide), List.forall_mem_nil _⟩
  | @object levels fields hnames htexts hvalues ih =>
    cases fields with
    | nil =>
      rw [writeValue, List.forall_mem_cons, List.forall_mem_singleton]
      exact ⟨hprint _ (by decide), hprint _ (by decide)⟩
    | cons field fields =>
      obtain ⟨name, v⟩ := field
      obtain ⟨hv, hrest⟩ := List.forall_mem_cons.1 ih
      have hname : ∀ c ∈ writeText name, P c :=
        fun c hc => hprint c (forall_mem_writeText name c hc)
      have hfields := forall_mem_writeFields hprint hbreak hrest (depth + 1)
      simp only [writeValue, List.forall_mem_append, List.forall_mem_cons, List.cons_append]
      exact ⟨hprint _ (by decide), ⟨⟨⟨⟨hbreak _, hname⟩, hprint _ (by decide),
        hprint _ (by decide), hv _⟩, hfields⟩, hbreak _⟩, hprint _ (by decide),
        List.forall_mem_nil _⟩

end written

/-! ## Files -/

theorem normaliseLineEnds_eq_self {cs : List Char} (h : ∀ c ∈ cs, c ≠ '\r') :
    Text.normaliseLineEnds cs = cs := by
  induction cs with
  | nil => rfl
  | cons c cs ih =>
    obtain ⟨hc, hcs⟩ := List.forall_mem_cons.1 h
    rw [Text.normaliseLineEnds, ih hcs, if_neg hc]
    simp_all

/-- Data that is written on lines indented by spaces holds no line ends but line feeds. -/
theorem normaliseLineEnds_write {levels : Nat} {v : Value} (h : Carried levels v) (n : Nat) :
    Text.normaliseLineEnds (write (.spaces n) v ++ "\n").toList =
      (write (.spaces n) v ++ "\n").toList := by
  have hbreak : ∀ depth, ∀ c ∈ (Layout.spaces n).lineBreak depth, c ≠ '\r' := by
    intro depth c hc
    rcases List.mem_cons.1 hc with rfl | hc
    · decide
    · obtain ⟨unit, hunit, hc⟩ := List.mem_flatten.1 hc
      rw [List.eq_of_mem_replicate hunit] at hc
      rw [List.eq_of_mem_replicate hc]
      decide
  apply normaliseLineEnds_eq_self
  rw [String.toList_append, write, String.toList_ofList, List.forall_mem_append]
  have hend : ∀ c ∈ "\n".toList, c ≠ '\r' := List.forall_mem_singleton.2 (by decide)
  refine ⟨forall_mem_writeValue (fun c hc => ?_) hbreak h 0, hend⟩
  rintro rfl
  exact absurd hc (by decide)

end Attest.Json
