import Attest.Text.Hex
import Mathlib.Tactic.Common

/-!
# Reading what is written in hexadecimal

Reading looks at a character by its value only (`decode_of_values`), so a text comes back as
the bytes it was written from also when letters of it were put in upper case.  The rest of
this file is about the sixteen digits: their values, their case, and that none of them is
taken for a blank or for the letter of a mark.
-/

namespace Attest.Hex

/-! ## Digits -/

theorem value?_digit {n : Nat} (h : n < 16) : value? (digit n) = some n := by
  have hall : ∀ n < 16, value? (digit n) = some n := by decide
  exact hall n h

theorem value?_toUpper_digit {n : Nat} (h : n < 16) : value? (digit n).toUpper = some n := by
  have hall : ∀ n < 16, value? (digit n).toUpper = some n := by decide
  exact hall n h

theorem toLower_digit {n : Nat} (h : n < 16) : (digit n).toLower = digit n := by
  have hall : ∀ n < 16, (digit n).toLower = digit n := by decide
  exact hall n h

theorem toLower_toUpper_digit {n : Nat} (h : n < 16) : (digit n).toUpper.toLower = digit n := by
  have hall : ∀ n < 16, (digit n).toUpper.toLower = digit n := by decide
  exact hall n h

theorem isUpper_digit {n : Nat} (h : n < 16) : (digit n).isUpper = false := by
  have hall : ∀ n < 16, (digit n).isUpper = false := by decide
  exact hall n h

/-- A character with a value is a digit or one of the first six letters, of either case. -/
theorem ranges_of_value? {c : Char} {n : Nat} (h : value? c = some n) :
    (48 ≤ c.toNat ∧ c.toNat ≤ 57) ∨ (97 ≤ c.toNat ∧ c.toNat ≤ 102) ∨
      (65 ≤ c.toNat ∧ c.toNat ≤ 70) := by
  simp only [value?] at h
  split at h
  · next hdigit => exact Or.inl hdigit
  · split at h
    · next hlower => exact Or.inr (Or.inl hlower)
    · split at h
      · next hupper => exact Or.inr (Or.inr hupper)
      · cases h

theorem isBlank_of_value? {c : Char} {n : Nat} (h : value? c = some n) : isBlank c = false := by
  have hranges := ranges_of_value? h
  have hspace : c ≠ ' ' := by
    rintro rfl
    simp at hranges
  have hcontrol : ¬ (9 ≤ c.toNat ∧ c.toNat ≤ 13) := by omega
  simp only [isBlank, hspace, decide_false, Bool.false_or, ← Bool.decide_and, hcontrol]

/-! ## Texts of digits -/

theorem digits_cons (b : UInt8) (bs : Bytes) :
    digits (b :: bs) = digit (b.toNat / 16) :: digit (b.toNat % 16) :: digits bs := rfl

@[simp] theorem toList_encode (bs : Bytes) : (encode bs).toList = digits bs :=
  String.toList_ofList

theorem length_digits (bs : Bytes) : (digits bs).length = 2 * bs.length := by
  induction bs with
  | nil => rfl
  | cons b bs ih =>
    rw [digits_cons, List.length_cons, List.length_cons, List.length_cons, ih]
    omega

theorem exists_digit_of_mem {c : Char} {bs : Bytes} (h : c ∈ digits bs) :
    ∃ n < 16, c = digit n := by
  obtain ⟨b, -, hc⟩ := List.mem_flatMap.1 h
  have hb : b.toNat < 256 := b.toNat_lt
  rw [pair, List.mem_cons, List.mem_singleton] at hc
  rcases hc with rfl | rfl
  · exact ⟨b.toNat / 16, by omega, rfl⟩
  · exact ⟨b.toNat % 16, by omega, rfl⟩

/-! ## Reading -/

theorem decodeFrom_pair (start : Nat) {c d : Char} {high low : Nat} (cs : List Char)
    (hhigh : value? c = some high) (hlow : value? d = some low) :
    decodeFrom start (c :: d :: cs) =
      (decodeFrom (start + 2) cs).map (UInt8.ofNat (16 * high + low) :: ·) := by
  rw [decodeFrom.eq_def]
  simp only [isBlank_of_value? hhigh, hhigh, hlow, Bool.false_eq_true, if_false]
  cases decodeFrom (start + 2) cs <;> rfl

theorem decodeFrom_of_values (start : Nat) {cs : List Char} {bs : Bytes}
    (h : cs.map value? = (digits bs).map value?) : decodeFrom start cs = .ok bs := by
  induction bs generalizing start cs with
  | nil =>
    rw [List.map_eq_nil_iff.1 h]
    rfl
  | cons b bs ih =>
    have hb : b.toNat < 256 := b.toNat_lt
    rw [digits_cons, List.map_cons, List.map_cons, value?_digit (by omega),
      value?_digit (by omega)] at h
    obtain ⟨c, cs, rfl, hhigh, h⟩ := List.map_eq_cons_iff.1 h
    obtain ⟨d, cs, rfl, hlow, hrest⟩ := List.map_eq_cons_iff.1 h
    have hbyte : UInt8.ofNat (16 * (b.toNat / 16) + b.toNat % 16) = b := by
      rw [Nat.div_add_mod, UInt8.ofNat_toNat]
    rw [decodeFrom_pair start cs hhigh hlow, ih _ hrest, hbyte]
    rfl

theorem lt_of_map_value? {cs : List Char} {ns : List Nat} (h : cs.map value? = ns.map some) :
    ∀ c ∈ cs, c.toNat < 128 := by
  intro c hc
  have hvalue : value? c ∈ ns.map some := h ▸ List.mem_map_of_mem hc
  obtain ⟨n, -, hn⟩ := List.mem_map.1 hvalue
  have hranges := ranges_of_value? hn.symm
  omega

theorem map_value?_digits (bs : Bytes) :
    (digits bs).map value? = (bs.flatMap fun b => [b.toNat / 16, b.toNat % 16]).map some := by
  induction bs with
  | nil => rfl
  | cons b bs ih =>
    have hb : b.toNat < 256 := b.toNat_lt
    rw [digits_cons, List.map_cons, List.map_cons, value?_digit (by omega),
      value?_digit (by omega), ih]
    rfl

/-- A text is read by the values of its characters: whatever has the values of the digits of
some bytes is read as these bytes. -/
theorem decode_of_values {cs : List Char} {bs : Bytes}
    (h : cs.map value? = (digits bs).map value?) : decode cs = .ok bs := by
  have hascii : cs.findIdx? (fun c => 128 ≤ c.toNat) = none := by
    rw [List.findIdx?_eq_none_iff]
    intro c hc
    have hlt := lt_of_map_value? (h.trans (map_value?_digits bs)) c hc
    simpa using hlt
  rw [decode, hascii]
  exact decodeFrom_of_values 0 h

theorem decode_digits (bs : Bytes) : decode (digits bs) = .ok bs :=
  decode_of_values rfl

/-! ## What is read

Pairs of digits are read, and blanks before, between and behind them are passed over.  Such a
text has two characters for each byte and one for each blank, and without the blanks it has
the values of the digits of the bytes.
-/

/-- The characters are two digits for each byte, of either case, and blanks between bytes. -/
inductive Spaced : List Char → Bytes → Prop where
  | nil : Spaced [] []
  | blank {c : Char} {cs : List Char} {bs : Bytes} (hc : isBlank c = true)
      (hcs : Spaced cs bs) : Spaced (c :: cs) bs
  | pair {c d : Char} {high low : Nat} {cs : List Char} {bs : Bytes}
      (hhigh : value? c = some high) (hlow : value? d = some low) (hcs : Spaced cs bs) :
      Spaced (c :: d :: cs) (UInt8.ofNat (16 * high + low) :: bs)

theorem decodeFrom_of_spaced (start : Nat) {cs : List Char} {bs : Bytes} (h : Spaced cs bs) :
    decodeFrom start cs = .ok bs := by
  induction h generalizing start with
  | nil => rfl
  | blank hc _ ih =>
    rw [decodeFrom.eq_def]
    simp only [hc, if_true]
    exact ih (start + 1)
  | pair hhigh hlow _ ih =>
    rw [decodeFrom_pair start _ hhigh hlow, ih]
    rfl

theorem spaced_of_decodeFrom {start : Nat} {cs : List Char} {bs : Bytes}
    (h : decodeFrom start cs = .ok bs) : Spaced cs bs := by
  fun_induction decodeFrom start cs generalizing bs with
  | case1 => cases h; exact .nil
  | case2 start c rest hblank ih => exact .blank hblank (ih h)
  | case3 => cases h
  | case4 => cases h
  | case5 => cases h
  | case6 start c hblank high d rest hhigh low hlow ih =>
    cases hrest : decodeFrom (start + 2) rest with
    | error i => rw [hrest] at h; cases h
    | ok tail =>
      rw [hrest] at h
      cases h
      exact .pair hhigh hlow (ih hrest)

theorem lt_of_isBlank {c : Char} (h : isBlank c = true) : c.toNat < 128 := by
  simp only [isBlank, Bool.or_eq_true, Bool.and_eq_true, decide_eq_true_eq] at h
  rcases h with rfl | h
  · decide
  · omega

theorem lt_of_value? {c : Char} {n : Nat} (h : value? c = some n) : c.toNat < 128 := by
  have hranges := ranges_of_value? h
  omega

theorem lt_of_spaced {cs : List Char} {bs : Bytes} (h : Spaced cs bs) :
    ∀ c ∈ cs, c.toNat < 128 := by
  induction h with
  | nil => exact List.forall_mem_nil _
  | blank hc _ ih => exact List.forall_mem_cons.2 ⟨lt_of_isBlank hc, ih⟩
  | pair hhigh hlow _ ih =>
    exact List.forall_mem_cons.2
      ⟨lt_of_value? hhigh, List.forall_mem_cons.2 ⟨lt_of_value? hlow, ih⟩⟩

/-- Exactly the texts of digits in pairs are read, with or without blanks between the pairs. -/
theorem decode_eq_ok_iff {cs : List Char} {bs : Bytes} : decode cs = .ok bs ↔ Spaced cs bs := by
  constructor
  · intro h
    unfold decode at h
    split at h
    · cases h
    · exact spaced_of_decodeFrom h
  · intro h
    have hascii : cs.findIdx? (fun c => 128 ≤ c.toNat) = none := by
      rw [List.findIdx?_eq_none_iff]
      intro c hc
      have hlt := lt_of_spaced h c hc
      simpa using hlt
    rw [decode, hascii]
    exact decodeFrom_of_spaced 0 h

theorem value?_lt {c : Char} {n : Nat} (h : value? c = some n) : n < 16 := by
  simp only [value?] at h
  split at h
  · cases h; omega
  · split at h
    · cases h; omega
    · split at h
      · cases h; omega
      · cases h

/-- Without its blanks a text has the values of the digits of what it is read as. -/
theorem map_value?_of_spaced {cs : List Char} {bs : Bytes} (h : Spaced cs bs) :
    (cs.filter (!isBlank ·)).map value? = (digits bs).map value? := by
  induction h with
  | nil => rfl
  | blank hc _ ih => simpa [List.filter_cons, hc] using ih
  | @pair c d high low cs bs hhigh hlow _ ih =>
    have hh := value?_lt hhigh
    have hl := value?_lt hlow
    have hbyte : (UInt8.ofNat (16 * high + low)).toNat = 16 * high + low := by
      rw [UInt8.toNat_ofNat']
      omega
    have hdiv : (16 * high + low) / 16 = high := by omega
    have hmod : (16 * high + low) % 16 = low := by omega
    simp only [List.filter_cons, isBlank_of_value? hhigh, isBlank_of_value? hlow, Bool.not_false,
      if_true, List.map_cons, digits_cons, hbyte, hdiv, hmod, value?_digit hh, value?_digit hl,
      hhigh, hlow, ih]

/-- A text without blanks has the values of the digits of what it is read as. -/
theorem map_value?_of_not_blank {cs : List Char} {bs : Bytes} (h : Spaced cs bs)
    (hblank : ∀ c ∈ cs, isBlank c = false) : cs.map value? = (digits bs).map value? := by
  have hfilter : cs.filter (!isBlank ·) = cs :=
    List.filter_eq_self.2 fun c hc => by rw [hblank c hc]; rfl
  rw [← map_value?_of_spaced h, hfilter]

/-! ## One case -/

theorem digit_of_value? {c : Char} {n : Nat} (h : value? c = some n) :
    c.toLower = digit n ∧ c.toUpper = (digit n).toUpper := by
  have hall : ∀ m < 128, ∀ n < 16, value? (Char.ofNat m) = some n →
      (Char.ofNat m).toLower = digit n ∧ (Char.ofNat m).toUpper = (digit n).toUpper := by
    decide +kernel
  have hc := hall c.toNat (lt_of_value? h) n (value?_lt h)
  rw [Char.ofNat_toNat] at hc
  exact hc h

/-- What a change makes of digits of either case, if it looks at their values only. -/
theorem map_of_values {g : Char → Char} (hg : ∀ c n, value? c = some n → g c = g (digit n))
    {cs : List Char} {bs : Bytes} (h : cs.map value? = (digits bs).map value?) :
    cs.map g = (digits bs).map g := by
  have hvalues : ∀ ds : List Char, (∀ c ∈ ds, ∃ n, value? c = some n) →
      ds.map g = (ds.map value?).map fun v => g (digit (v.getD 0)) := by
    intro ds hds
    rw [List.map_map]
    refine List.map_congr_left fun c hc => ?_
    obtain ⟨n, hn⟩ := hds c hc
    rw [Function.comp_apply, hn, Option.getD_some, hg c n hn]
  have hdigits : ∀ c ∈ digits bs, ∃ n, value? c = some n := by
    intro c hc
    obtain ⟨n, hn, rfl⟩ := exists_digit_of_mem hc
    exact ⟨n, value?_digit hn⟩
  have hcs : ∀ c ∈ cs, ∃ n, value? c = some n := by
    intro c hc
    have hmem : value? c ∈ (digits bs).map value? := h ▸ List.mem_map_of_mem hc
    obtain ⟨d, hd, hvalue⟩ := List.mem_map.1 hmem
    obtain ⟨n, hn⟩ := hdigits d hd
    exact ⟨n, hvalue ▸ hn⟩
  rw [hvalues cs hcs, hvalues _ hdigits, h]

theorem map_toLower_digits (bs : Bytes) : (digits bs).map Char.toLower = digits bs := by
  refine (List.map_congr_left fun c hc => ?_).trans (List.map_id _)
  obtain ⟨n, hn, rfl⟩ := exists_digit_of_mem hc
  exact toLower_digit hn

theorem map_toLower_of_values {cs : List Char} {bs : Bytes}
    (h : cs.map value? = (digits bs).map value?) : cs.map Char.toLower = digits bs := by
  rw [map_of_values (fun c n hn => ?_) h, map_toLower_digits]
  rw [(digit_of_value? hn).1, toLower_digit (value?_lt hn)]

theorem map_toUpper_of_values {cs : List Char} {bs : Bytes}
    (h : cs.map value? = (digits bs).map value?) :
    cs.map Char.toUpper = (digits bs).map Char.toUpper :=
  map_of_values (fun _ _ hn => (digit_of_value? hn).2) h

/-! ## Marks -/

theorem unmark_digits (bs : Bytes) : unmark (digits bs) = digits bs := by
  cases bs with
  | nil => rfl
  | cons b bs =>
    have hb : b.toNat < 256 := b.toNat_lt
    have hvalue := value?_digit (show b.toNat % 16 < 16 by omega)
    rw [digits_cons, unmark]
    -- The second digit would be the letter of a mark, of either case.
    all_goals
      intro rest heq
      simp only [List.cons.injEq] at heq
      rw [heq.2.1] at hvalue
      cases hvalue

end Attest.Hex
