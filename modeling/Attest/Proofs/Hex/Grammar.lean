import Attest.Proofs.Hex

/-!
# Which texts are hexadecimal

Hexadecimal text is an even number of digits, with or without a mark before them.  Such a text is
read, and the bytes it is read as are written with the same digits in lower case
(`exists_parse_of_hasDigits`).  What is read besides has blanks in it: only the number of all
characters is looked at, and blanks between pairs are passed over, so an even number of them is not
seen (`parse_eq_ok_iff`).
-/

namespace Attest.Hex

/-! ## The grammar -/

/-- The character is a digit or one of the first six letters, of either case. -/
def IsDigit (c : Char) : Prop :=
  ('0' ≤ c ∧ c ≤ '9') ∨ ('a' ≤ c ∧ c ≤ 'f') ∨ ('A' ≤ c ∧ c ≤ 'F')

instance (c : Char) : Decidable (IsDigit c) :=
  inferInstanceAs (Decidable (_ ∨ _))

/-- The text is the characters, with or without a mark before them. -/
def HasBody (s : String) (cs : List Char) : Prop :=
  s.toList = cs ∨ s.toList = '0' :: 'x' :: cs ∨ s.toList = '0' :: 'X' :: cs

/-- The text is the characters, with or without a mark before them, and all of them are digits. -/
structure HasDigits (s : String) (cs : List Char) : Prop where
  hasBody : HasBody s cs
  isDigit : ∀ c ∈ cs, IsDigit c

/-- Apart from a mark the text is pairs of digits for the bytes, and blanks in even number between
them. -/
def ReadsAs (s : String) (bs : Bytes) : Prop :=
  ∃ cs, HasBody s cs ∧ cs.length % 2 = 0 ∧ Spaced cs bs

/-! ## Digits -/

theorem isDigit_iff_ranges {c : Char} :
    IsDigit c ↔ (48 ≤ c.toNat ∧ c.toNat ≤ 57) ∨ (97 ≤ c.toNat ∧ c.toNat ≤ 102) ∨
      (65 ≤ c.toNat ∧ c.toNat ≤ 70) := by
  simp [IsDigit, Char.le_def, UInt32.le_iff_toNat_le, ← Char.toNat_val]

theorem isDigit_iff {c : Char} : IsDigit c ↔ ∃ n, value? c = some n := by
  rw [isDigit_iff_ranges]
  constructor
  · intro h
    rcases h with hdigit | hlower | hupper
    · exact ⟨_, if_pos hdigit⟩
    · have hdigit : ¬ (48 ≤ c.toNat ∧ c.toNat ≤ 57) := by omega
      exact ⟨_, (if_neg hdigit).trans (if_pos hlower)⟩
    · have hdigit : ¬ (48 ≤ c.toNat ∧ c.toNat ≤ 57) := by omega
      have hlower : ¬ (97 ≤ c.toNat ∧ c.toNat ≤ 102) := by omega
      exact ⟨_, (if_neg hdigit).trans ((if_neg hlower).trans (if_pos hupper))⟩
  · rintro ⟨n, hn⟩
    exact ranges_of_value? hn

theorem isBlank_of_isDigit {c : Char} (h : IsDigit c) : isBlank c = false := by
  obtain ⟨n, hn⟩ := isDigit_iff.1 h
  exact isBlank_of_value? hn

section spaced

variable {cs : List Char} {bs : Bytes}

theorem spaced_of_isDigit : ∀ {cs : List Char}, (∀ c ∈ cs, IsDigit c) → cs.length % 2 = 0 →
    ∃ bs, Spaced cs bs
  | [], _, _ => ⟨[], .nil⟩
  | [_], _, heven => absurd heven (by simp)
  | c :: d :: cs, h, heven => by
    rw [List.forall_mem_cons, List.forall_mem_cons] at h
    obtain ⟨high, hhigh⟩ := isDigit_iff.1 h.1
    obtain ⟨low, hlow⟩ := isDigit_iff.1 h.2.1
    have hrest : cs.length % 2 = 0 := by
      rw [List.length_cons, List.length_cons] at heven
      omega
    obtain ⟨bs, hbs⟩ := spaced_of_isDigit h.2.2 hrest
    exact ⟨_, .pair hhigh hlow hbs⟩

theorem length_of_spaced (h : Spaced cs bs) : cs.length = 2 * bs.length + cs.countP isBlank := by
  induction h with
  | nil => rfl
  | blank hc _ ih =>
    rw [List.length_cons, ih, List.countP_cons_of_pos hc]
    omega
  | pair hhigh hlow _ ih =>
    rw [List.countP_cons_of_neg (by simp [isBlank_of_value? hhigh]),
      List.countP_cons_of_neg (by simp [isBlank_of_value? hlow])]
    simp only [List.length_cons]
    omega

theorem isDigit_or_isBlank_of_spaced (h : Spaced cs bs) :
    ∀ c ∈ cs, IsDigit c ∨ isBlank c = true := by
  induction h with
  | nil => exact List.forall_mem_nil _
  | blank hc _ ih => exact List.forall_mem_cons.2 ⟨Or.inr hc, ih⟩
  | pair hhigh hlow _ ih =>
    exact List.forall_mem_cons.2 ⟨Or.inl (isDigit_iff.2 ⟨_, hhigh⟩),
      List.forall_mem_cons.2 ⟨Or.inl (isDigit_iff.2 ⟨_, hlow⟩), ih⟩⟩

/-- As many characters as there are digits to write leave no room for a blank. -/
theorem isDigit_of_spaced_of_length (h : Spaced cs bs) (hlength : cs.length = 2 * bs.length) :
    ∀ c ∈ cs, IsDigit c := by
  intro c hc
  have hcount : cs.countP isBlank = 0 := by
    have hsum := length_of_spaced h
    omega
  rcases isDigit_or_isBlank_of_spaced h c hc with hdigit | hblank
  · exact hdigit
  · exact absurd hblank (List.countP_eq_zero.1 hcount c hc)

theorem length_of_isDigit (h : Spaced cs bs) (hcs : ∀ c ∈ cs, IsDigit c) :
    cs.length = 2 * bs.length := by
  have hcount : cs.countP isBlank = 0 :=
    List.countP_eq_zero.2 fun c hc => by simp [isBlank_of_isDigit (hcs c hc)]
  rw [length_of_spaced h, hcount]
  rfl

theorem digits_of_isDigit (h : Spaced cs bs) (hcs : ∀ c ∈ cs, IsDigit c) :
    digits bs = cs.map Char.toLower :=
  (map_toLower_of_values
    (map_value?_of_not_blank h fun c hc => isBlank_of_isDigit (hcs c hc))).symm

end spaced

theorem isDigit_of_mem_digits {c : Char} {bs : Bytes} (h : c ∈ digits bs) : IsDigit c := by
  obtain ⟨n, hn, rfl⟩ := exists_digit_of_mem h
  exact isDigit_iff.2 ⟨n, value?_digit hn⟩

/-! ## Marks -/

section marks

variable {s : String} {cs : List Char} {bs : Bytes}

theorem hasBody_unmark (s : String) : HasBody s (unmark s.toList) := by
  unfold unmark
  split
  · next rest h => exact Or.inr (Or.inl h)
  · next rest h => exact Or.inr (Or.inr h)
  · exact Or.inl rfl

/-- The letter of a mark is neither a digit nor a blank. -/
theorem ne_mark {c : Char} (h : IsDigit c ∨ isBlank c = true) : c ≠ 'x' ∧ c ≠ 'X' := by
  rw [isDigit_iff_ranges] at h
  constructor <;>
  · rintro rfl
    revert h
    decide

theorem unmark_of_hasBody (h : HasBody s cs) (hcs : ∀ c ∈ cs, IsDigit c ∨ isBlank c = true) :
    unmark s.toList = cs := by
  rcases h with h | h | h
  · rw [h]
    unfold unmark
    split
    · exact absurd rfl (ne_mark (hcs 'x' (by simp))).1
    · exact absurd rfl (ne_mark (hcs 'X' (by simp))).2
    · rfl
  · rw [h]
    rfl
  · rw [h]
    rfl

theorem unmark_of_spaced (h : HasBody s cs) (hcs : Spaced cs bs) : unmark s.toList = cs :=
  unmark_of_hasBody h (isDigit_or_isBlank_of_spaced hcs)

theorem unmark_of_hasDigits (h : HasDigits s cs) : unmark s.toList = cs :=
  unmark_of_hasBody h.hasBody fun c hc => Or.inl (h.isDigit c hc)

/-- A mark is no blank, so blanks are in the body. -/
theorem mem_body_of_isBlank (h : HasBody s cs) {c : Char} (hc : c ∈ s.toList)
    (hblank : isBlank c = true) : c ∈ cs := by
  rcases h with h | h | h
  · exact h ▸ hc
  all_goals
    rw [h, List.mem_cons, List.mem_cons] at hc
    rcases hc with rfl | rfl | hc
    · cases hblank
    · cases hblank
    · exact hc

theorem subset_of_hasBody (h : HasBody s cs) : cs ⊆ s.toList := by
  rcases h with h | h | h <;> simp [h]

theorem hasBody_encode (bs : Bytes) : HasBody (encode bs) (digits bs) :=
  Or.inl (toList_encode bs)

theorem hasBody_encodeMarked (bs : Bytes) : HasBody (encodeMarked bs) (digits bs) := by
  refine Or.inr (Or.inl ?_)
  rw [encodeMarked, String.toList_append, toList_encode]
  rfl

end marks

/-! ## Reading -/

section reading

variable {s : String} {cs : List Char} {bs : Bytes}

theorem parse_of_odd (h : (unmark s.toList).length % 2 = 1) :
    parse s = .error (.oddLength (unmark s.toList).length) := by
  rw [parse, if_pos (by omega)]

theorem parse_of_even (h : (unmark s.toList).length % 2 = 0) :
    parse s = (decode (unmark s.toList)).mapError .badCharacter := by
  rw [parse, if_neg (by omega)]

/-- Exactly this is read: pairs of digits, with or without a mark, and blanks in even number between
them. -/
theorem parse_eq_ok_iff : parse s = .ok bs ↔ ReadsAs s bs := by
  constructor
  · intro h
    rcases Nat.mod_two_eq_zero_or_one (unmark s.toList).length with heven | hodd
    · rw [parse_of_even heven] at h
      refine ⟨_, hasBody_unmark s, heven, decode_eq_ok_iff.1 ?_⟩
      cases hdecode : decode (unmark s.toList) with
      | error i =>
        rw [hdecode] at h
        cases h
      | ok bs' =>
        rw [hdecode] at h
        exact congrArg Except.ok (Except.ok.inj h)
    · rw [parse_of_odd hodd] at h
      cases h
  · rintro ⟨cs, hbody, heven, hcs⟩
    have hunmark := unmark_of_spaced hbody hcs
    rw [parse_of_even (hunmark ▸ heven), hunmark, decode_eq_ok_iff.2 hcs]
    rfl

/-- What bytes are written as is read as them, with or without a mark. -/
theorem readsAs_of_hasBody_digits (h : HasBody s (digits bs)) : ReadsAs s bs :=
  ⟨digits bs, h, by rw [length_digits, Nat.mul_mod_right], decode_eq_ok_iff.1 (decode_digits bs)⟩

/-- Digits in even number are read, and written again in lower case. -/
theorem exists_parse_of_hasDigits (h : HasDigits s cs) (heven : cs.length % 2 = 0) :
    ∃ bs, parse s = .ok bs ∧ digits bs = cs.map Char.toLower ∧ 2 * bs.length = cs.length := by
  obtain ⟨bs, hbs⟩ := spaced_of_isDigit h.isDigit heven
  exact ⟨bs, parse_eq_ok_iff.2 ⟨cs, h.hasBody, heven, hbs⟩, digits_of_isDigit hbs h.isDigit,
    (length_of_isDigit hbs h.isDigit).symm⟩

/-- Of a text that is read, the blanks are all that is no digit. -/
theorem hasDigits_iff_of_readsAs (h : ReadsAs s bs) :
    (∃ cs, HasDigits s cs) ↔ ∀ c ∈ s.toList, isBlank c = false := by
  obtain ⟨cs, hbody, -, hcs⟩ := h
  constructor
  · rintro ⟨ds, hds⟩ c hc
    by_contra hblank
    have hmem := mem_body_of_isBlank hds.hasBody hc (by simpa using hblank)
    exact hblank (isBlank_of_isDigit (hds.isDigit c hmem))
  · intro hnone
    refine ⟨cs, hbody, fun c hc => ?_⟩
    rcases isDigit_or_isBlank_of_spaced hcs c hc with hdigit | hblank
    · exact hdigit
    · rw [hnone c (subset_of_hasBody hbody hc)] at hblank
      cases hblank

end reading

end Attest.Hex
