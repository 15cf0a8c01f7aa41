import Attest.Proofs.Digest
import Attest.Target
import Mathlib.Algebra.Order.Floor.Semifield
import Mathlib.Data.Nat.Bitwise
import Mathlib.Data.Rat.Floor

/-!
# Compact codes

A code has a size `s` in its top byte and a mantissa `m` below the sign, and stands for
`m * 256 ^ (s - 3)`, rounded down.  Two facts about the code of a number `n` carry the rest:

* `width_le_iff`: its size is the number of bytes of `2 * n`, so that there is room for a
  clear sign; the two branches of the encoder, with and without a carry into the size, are
  one formula in terms of it (`compactOf_eq`);
* `compactOf_compactValue`: a code with a mantissa of at least two bytes whose value is not
  rounded is the code of its value.

Rounding through the code (`rounded`) thus changes no code (`compactOf_rounded`), and keeps
the order because codes do (`rounded_le_rounded`).
-/

namespace Attest.Target

/-! ## Targets as numbers -/

/-- A target is the number `t`, given as a digest or as a number of at most 256 bits. -/
def Input.Spells : Input → Nat → Prop
  | digest d, t => d.toNat = t
  | number n, t => n = t ∧ t < 2 ^ 256

section Spells

variable {target : Input} {t : Nat}

theorem Input.Spells.le_maxNat (h : target.Spells t) : t ≤ Digest.maxNat := by
  cases target with
  | digest d => exact h ▸ d.toNat_le_maxNat
  | number n => exact (Digest.le_maxNat_iff t).2 h.2

theorem Input.Spells.value (h : target.Spells t) : target.value = .ok t := by
  have hle : t ≤ Digest.maxNat := h.le_maxNat
  cases target with
  | digest d => exact congrArg Except.ok h
  | number n =>
    obtain ⟨rfl, -⟩ := h
    rw [Input.value, if_pos ⟨Int.natCast_nonneg t, by exact_mod_cast hle⟩, Int.toNat_natCast]

theorem Input.Spells.toCompact (h : target.Spells t) :
    Target.toCompact target = .ok (compactOf t) := by
  rw [Target.toCompact, h.value]
  rfl

end Spells

/-! ## Shifts by whole bytes -/

theorem shiftLeft_bytes (n : Nat) {a b : Nat} (h : b ≤ a) :
    n <<< (8 * (a - b)) = n * 256 ^ a / 256 ^ b := by
  rw [Nat.shiftLeft_eq, Nat.pow_mul, ← pow_sub_mul_pow 256 h, ← Nat.mul_assoc,
    Nat.mul_div_cancel _ (Nat.pow_pos (by omega))]

theorem shiftRight_bytes (n : Nat) {a b : Nat} (h : a ≤ b) :
    n >>> (8 * (b - a)) = n * 256 ^ a / 256 ^ b := by
  rw [Nat.shiftRight_eq_div_pow, Nat.pow_mul, ← pow_sub_mul_pow 256 h,
    Nat.mul_div_mul_right _ _ (Nat.pow_pos (by omega))]

theorem mantissaOf_eq (n size : Nat) : mantissaOf n size = n * 256 ^ 3 / 256 ^ size := by
  unfold mantissaOf
  split
  · next h => exact shiftLeft_bytes n h
  · next h => exact shiftRight_bytes n (by omega)

theorem compactValue_eq (size m : Nat) : compactValue size m = m * 256 ^ size / 256 ^ 3 := by
  unfold compactValue
  split
  · next h => exact shiftRight_bytes m h
  · next h => exact shiftLeft_bytes m (by omega)

theorem le_mantissaOf_iff (n size m : Nat) :
    m ≤ mantissaOf n size ↔ m * 256 ^ size ≤ n * 256 ^ 3 := by
  rw [mantissaOf_eq, Nat.le_div_iff_mul_le (Nat.pow_pos (by omega))]

theorem mantissaOf_lt_iff (n size m : Nat) :
    mantissaOf n size < m ↔ n * 256 ^ 3 < m * 256 ^ size := by
  rw [← not_le, le_mantissaOf_iff, not_le]

/-! ## Writing a code -/

/-- The size in the code of `n`: the bytes of `n` and of a clear bit before it. -/
def width (n : Nat) : Nat :=
  byteSize (2 * n)

/-- The mantissa in the code of `n`. -/
def mantissa (n : Nat) : Nat :=
  mantissaOf n (width n)

theorem width_le_iff (n w : Nat) : width n ≤ w ↔ 2 * n < 256 ^ w :=
  Bytes.byteLength_le_iff (2 * n) w

theorem lt_width_iff (n w : Nat) : w < width n ↔ 256 ^ w ≤ 2 * n := by
  rw [← not_le, width_le_iff, not_lt]

theorem two_mul_lt (n : Nat) : 2 * n < 256 ^ width n :=
  (width_le_iff n _).1 le_rfl

theorem pow_le_two_mul {n : Nat} (hn : 0 < n) :
    ∃ w, width n = w + 1 ∧ 256 ^ w ≤ 2 * n := by
  have hpos : 0 < width n := (lt_width_iff n 0).2 (by omega)
  exact ⟨width n - 1, by omega, (lt_width_iff n _).1 (by omega)⟩

theorem width_eq {n w : Nat} (hlow : 256 ^ w ≤ 2 * n) (hhigh : 2 * n < 256 ^ (w + 1)) :
    width n = w + 1 := by
  have hle : width n ≤ w + 1 := (width_le_iff n _).2 hhigh
  have hlt : w < width n := (lt_width_iff n w).2 hlow
  omega

theorem mantissa_lt (n : Nat) : mantissa n < 2 ^ 23 := by
  have hfits : 2 * n < 256 ^ width n := two_mul_lt n
  rw [mantissa, mantissaOf_lt_iff]
  omega

theorem le_mantissa {n : Nat} (hn : 0 < n) : 2 ^ 15 ≤ mantissa n := by
  obtain ⟨w, hwidth, hlow⟩ := pow_le_two_mul hn
  rw [mantissa, le_mantissaOf_iff, hwidth, Nat.pow_succ]
  omega

theorem width_of_lt {n : Nat} (h : 2 * n < 256 ^ byteSize n) : width n = byteSize n := by
  apply le_antisymm
  · exact (width_le_iff n _).2 h
  · have hfits : 2 * n < 256 ^ width n := two_mul_lt n
    exact (Bytes.byteLength_le_iff n _).2 (by omega)

theorem width_of_le {n : Nat} (h : 256 ^ byteSize n ≤ 2 * n) : width n = byteSize n + 1 := by
  have hfits : n < 256 ^ byteSize n := (Bytes.byteLength_le_iff n _).1 le_rfl
  apply width_eq h
  rw [Nat.pow_succ]
  omega

theorem and_sign_eq (c : Nat) : c &&& 0x00800000 = c / 2 ^ 23 % 2 * 2 ^ 23 := by
  have hbit : c &&& 0x00800000 = (c.testBit 23).toNat * 2 ^ 23 := Nat.and_two_pow c 23
  rw [hbit, Nat.testBit_eq_decide_div_mod_eq]
  rcases Nat.mod_two_eq_zero_or_one (c / 2 ^ 23) with h | h <;> rw [h] <;> rfl

/-- A carry out of the mantissa moves on to a size with room for the sign, and without one
the size of the number has that room already. -/
theorem compactOf_eq (n : Nat) : compactOf n = width n * 2 ^ 24 + mantissa n := by
  by_cases hn : n = 0
  · subst hn
    rfl
  have hfits : n < 256 ^ byteSize n := (Bytes.byteLength_le_iff n _).1 le_rfl
  have hm : mantissaOf n (byteSize n) < 2 ^ 24 := by
    rw [mantissaOf_lt_iff]
    omega
  have hfull : 2 ^ 23 ≤ mantissaOf n (byteSize n) ↔ 256 ^ byteSize n ≤ 2 * n := by
    rw [le_mantissaOf_iff]
    omega
  unfold compactOf
  rw [if_neg hn]
  dsimp only
  rw [and_sign_eq]
  split
  · next hsign =>
    -- Two of the three leading bytes are kept, under the next size.
    have hwidth : width n = byteSize n + 1 := width_of_le (hfull.1 (by omega))
    have hpow : 256 ^ (byteSize n + 1) = 256 ^ byteSize n * 2 ^ 8 := Nat.pow_succ 256 _
    have hcarry : mantissaOf n (byteSize n) >>> 8 = mantissa n := by
      rw [mantissa, hwidth, mantissaOf_eq, mantissaOf_eq, hpow, Nat.shiftRight_eq_div_pow,
        Nat.div_div_eq_div_mul]
    have hlt : mantissa n < 2 ^ 24 := (mantissa_lt n).trans (by omega)
    rw [hcarry, ← Nat.shiftLeft_add_eq_or_of_lt hlt, Nat.shiftLeft_eq, hwidth]
  · next hsign =>
    -- All three are kept, and the size is that of the number.
    have hclear : 2 * n < 256 ^ byteSize n := by
      rw [← not_le, ← hfull]
      omega
    rw [← Nat.shiftLeft_add_eq_or_of_lt hm, Nat.shiftLeft_eq, mantissa, width_of_lt hclear]

/-- Codes are ordered as numbers are: by size, and by mantissa where the sizes agree. -/
theorem compactOf_le_compactOf {m n : Nat} (h : m ≤ n) : compactOf m ≤ compactOf n := by
  have hfits : 2 * n < 256 ^ width n := two_mul_lt n
  have hwidth : width m ≤ width n := (width_le_iff m _).2 (by omega)
  have hm : mantissa m < 2 ^ 23 := mantissa_lt m
  rw [compactOf_eq, compactOf_eq]
  by_cases heq : width m = width n
  · have hmantissa : mantissa m ≤ mantissa n := by
      rw [mantissa, mantissa, heq, mantissaOf_eq, mantissaOf_eq]
      exact Nat.div_le_div_right (Nat.mul_le_mul_right _ h)
    omega
  · omega

/-! ## Reading a code -/

/-- The size in a code. -/
def codeSize (c : Nat) : Nat :=
  c >>> 24

/-- The mantissa in a code. -/
def codeMantissa (c : Nat) : Nat :=
  c &&& 0x007fffff

/-- What a code stands for: the number `m * 256 ^ (s - 3)`, rounded down. -/
def codeValue (c : Nat) : Nat :=
  ⌊(codeMantissa c : ℚ) * 256 ^ ((codeSize c : ℤ) - 3)⌋₊

/-- The codes of targets: of 32 bits, not negative, and for a number of 256 bits. -/
structure Readable (code : Int) : Prop where
  nonneg : 0 ≤ code
  fits : code < 2 ^ 32
  unsigned : ¬ (codeMantissa code.toNat ≠ 0 ∧ code.toNat &&& 0x00800000 ≠ 0)
  small : codeValue code.toNat < 2 ^ 256

/-- The codes that are written: zero, and those of a mantissa of at least two bytes of which
nothing is rounded off. -/
def Canonical (c : Nat) : Prop :=
  c = 0 ∨ 1 ≤ codeSize c ∧ 0x8000 ≤ codeMantissa c ∧
    (codeSize c < 3 → codeMantissa c % 2 ^ (8 * (3 - codeSize c)) = 0)

theorem codeSize_eq (c : Nat) : codeSize c = c / 2 ^ 24 :=
  Nat.shiftRight_eq_div_pow c 24

theorem codeMantissa_eq (c : Nat) : codeMantissa c = c % 2 ^ 23 :=
  Nat.and_two_pow_sub_one_eq_mod c 23

theorem codeValue_eq (c : Nat) : codeValue c = compactValue (codeSize c) (codeMantissa c) := by
  rw [compactValue_eq, codeValue, zpow_sub₀ (by norm_num), ← mul_div_assoc, zpow_natCast]
  exact_mod_cast Nat.floor_div_eq_div (K := ℚ) (codeMantissa c * 256 ^ codeSize c) (256 ^ 3)

theorem ofCompact_of_readable {code : Int} (h : Readable code) :
    ∃ d, ofCompact code = .ok d ∧ d.toNat = codeValue code.toNat := by
  have hfits : 0 ≤ code ∧ code ≤ 0xffffffff := ⟨h.nonneg, by have := h.fits; omega⟩
  have hsmall : codeValue code.toNat ≤ Digest.maxNat := (Digest.le_maxNat_iff _).2 h.small
  refine ⟨.ofNat (codeValue code.toNat), ?_, Digest.toNat_ofNat hsmall⟩
  rw [codeValue_eq] at hsmall ⊢
  unfold ofCompact
  rw [if_pos hfits]
  exact (if_neg h.unsigned).trans (if_pos hsmall)

theorem ofCompact_of_not_readable {code : Int} (h : ¬ Readable code) :
    ∃ r, ofCompact code = .error r := by
  unfold ofCompact
  split
  · next hfits =>
    dsimp only
    split
    · exact ⟨_, rfl⟩
    · next hunsigned =>
      split
      · next hsmall =>
        refine absurd ⟨hfits.1, by omega, hunsigned, ?_⟩ h
        rw [← Digest.le_maxNat_iff, codeValue_eq]
        exact hsmall
      · exact ⟨_, rfl⟩
  · exact ⟨_, rfl⟩

/-! ## Canonical codes -/

section Canonical

variable {s m : Nat}

theorem compactValue_mul (hexact : s < 3 → m % 2 ^ (8 * (3 - s)) = 0) :
    compactValue s m * 256 ^ 3 = m * 256 ^ s := by
  rw [compactValue_eq]
  apply Nat.div_mul_cancel
  by_cases hs : s < 3
  · have hdvd : 256 ^ (3 - s) ∣ m := by
      have hzero := hexact hs
      rw [Nat.pow_mul] at hzero
      exact Nat.dvd_of_mod_eq_zero hzero
    rw [← pow_sub_mul_pow 256 hs.le]
    exact Nat.mul_dvd_mul_right hdvd _
  · exact Dvd.dvd.mul_left (Nat.pow_dvd_pow 256 (by omega)) m

/-- Where nothing is rounded off, the bounds of the mantissa are those of the value. -/
theorem compactOf_compactValue (hs : 1 ≤ s) (hlow : 2 ^ 15 ≤ m) (hhigh : m < 2 ^ 23)
    (hexact : s < 3 → m % 2 ^ (8 * (3 - s)) = 0) :
    compactOf (compactValue s m) = s * 2 ^ 24 + m := by
  obtain ⟨w, rfl⟩ : ∃ w, s = w + 1 := ⟨s - 1, by omega⟩
  have hvalue := compactValue_mul hexact
  have hpos : 0 < 256 ^ (w + 1) := Nat.pow_pos (by omega)
  have hbelow : 2 ^ 15 * 256 ^ (w + 1) ≤ m * 256 ^ (w + 1) := Nat.mul_le_mul_right _ hlow
  have habove : m * 256 ^ (w + 1) < 2 ^ 23 * 256 ^ (w + 1) :=
    Nat.mul_lt_mul_of_pos_right hhigh hpos
  have hpow : 256 ^ (w + 1) = 256 ^ w * 256 := Nat.pow_succ 256 w
  have hwidth : width (compactValue (w + 1) m) = w + 1 := width_eq (by omega) (by omega)
  have hmantissa : mantissa (compactValue (w + 1) m) = m := by
    rw [mantissa, hwidth, mantissaOf_eq, hvalue, Nat.mul_div_cancel _ hpos]
  rw [compactOf_eq, hwidth, hmantissa]

end Canonical

@[simp] theorem codeSize_compactOf (n : Nat) : codeSize (compactOf n) = width n := by
  have hm : mantissa n < 2 ^ 23 := mantissa_lt n
  rw [codeSize_eq, compactOf_eq]
  omega

@[simp] theorem codeMantissa_compactOf (n : Nat) : codeMantissa (compactOf n) = mantissa n := by
  have hm : mantissa n < 2 ^ 23 := mantissa_lt n
  rw [codeMantissa_eq, compactOf_eq]
  omega

@[simp] theorem and_sign_compactOf (n : Nat) : compactOf n &&& 0x00800000 = 0 := by
  have hm : mantissa n < 2 ^ 23 := mantissa_lt n
  rw [and_sign_eq, compactOf_eq]
  omega

theorem compactOf_lt {n : Nat} (h : n ≤ Digest.maxNat) : compactOf n < 2 ^ 32 := by
  rw [Digest.le_maxNat_iff] at h
  have hwidth : width n ≤ 33 := (width_le_iff n 33).2 (by omega)
  have hm : mantissa n < 2 ^ 23 := mantissa_lt n
  rw [compactOf_eq]
  omega

theorem canonical_compactOf (n : Nat) : Canonical (compactOf n) := by
  rcases Nat.eq_zero_or_pos n with rfl | hn
  · exact Or.inl rfl
  obtain ⟨w, hwidth, -⟩ := pow_le_two_mul hn
  rw [Canonical, codeSize_compactOf, codeMantissa_compactOf]
  refine Or.inr ⟨by omega, le_mantissa hn, fun hlt => ?_⟩
  rw [mantissa, mantissaOf, if_pos hlt.le, Nat.shiftLeft_eq, Nat.mul_mod_left]

/-- A code that can be read is written again just when it is canonical. -/
theorem compactOf_codeValue_iff {c : Nat} (h : Readable c) :
    compactOf (codeValue c) = c ↔ Canonical c := by
  constructor
  · intro heq
    rw [← heq]
    exact canonical_compactOf _
  · rintro (rfl | ⟨hsize, hlow, hexact⟩)
    · rw [codeValue_eq]
      rfl
    · have hhigh : codeMantissa c < 2 ^ 23 := by
        rw [codeMantissa_eq]
        omega
      have hsign : c / 2 ^ 23 % 2 = 0 := by
        by_contra hset
        refine h.unsigned ⟨by rw [Int.toNat_natCast]; omega, ?_⟩
        rw [Int.toNat_natCast, and_sign_eq]
        omega
      rw [codeValue_eq, compactOf_compactValue hsize hlow hhigh hexact, codeSize_eq,
        codeMantissa_eq]
      omega

/-! ## Rounding -/

/-- The number that the code of `n` stands for. -/
def rounded (n : Nat) : Nat :=
  codeValue (compactOf n)

theorem rounded_eq (n : Nat) :
    rounded n = if width n ≤ 3 then n else n - n % 256 ^ (width n - 3) := by
  rw [rounded, codeValue_eq, codeSize_compactOf, codeMantissa_compactOf, mantissa]
  unfold compactValue mantissaOf
  split
  · rw [Nat.shiftLeft_shiftRight]
  · rw [Nat.shiftLeft_eq, Nat.shiftRight_eq_div_pow, Nat.div_mul_self_eq_mod_sub_self,
      Nat.pow_mul]

theorem rounded_le (n : Nat) : rounded n ≤ n := by
  rw [rounded_eq]
  split
  · exact le_rfl
  · exact Nat.sub_le _ _

theorem rounded_of_lt {n : Nat} (h : n < 2 ^ 23) : rounded n = n := by
  have hwidth : width n ≤ 3 := (width_le_iff n 3).2 (by omega)
  rw [rounded_eq, if_pos hwidth]

theorem sub_rounded_lt {n : Nat} (hn : 0 < n) : (n - rounded n) * 2 ^ 15 < n := by
  rw [rounded_eq]
  split
  · omega
  · next hwidth =>
    obtain ⟨w, hw, hlow⟩ := pow_le_two_mul hn
    have hpow : 256 ^ w = 256 ^ (width n - 3) * 256 ^ 2 := by
      rw [hw, show w + 1 - 3 = w - 2 by omega, pow_sub_mul_pow 256 (by omega)]
    have hlost : n % 256 ^ (width n - 3) < 256 ^ (width n - 3) :=
      Nat.mod_lt n (Nat.pow_pos (by omega))
    omega

theorem readable_compactOf {n : Nat} (h : n ≤ Digest.maxNat) : Readable (compactOf n) where
  nonneg := Int.natCast_nonneg _
  fits := by exact_mod_cast compactOf_lt h
  unsigned := fun hset => hset.2 (and_sign_compactOf n)
  small := by
    rw [← Digest.le_maxNat_iff]
    exact (rounded_le n).trans h

theorem compactOf_rounded {n : Nat} (h : n ≤ Digest.maxNat) :
    compactOf (rounded n) = compactOf n :=
  (compactOf_codeValue_iff (readable_compactOf h)).2 (canonical_compactOf n)

/-- Rounding keeps the order: were it reversed, the codes would be too, so that they would
agree and stand for one number. -/
theorem rounded_le_rounded {m n : Nat} (h : m ≤ n) (hn : n ≤ Digest.maxNat) :
    rounded m ≤ rounded n := by
  by_contra! hlt
  have hcodes : compactOf (rounded n) ≤ compactOf (rounded m) := compactOf_le_compactOf hlt.le
  rw [compactOf_rounded hn, compactOf_rounded (h.trans hn)] at hcodes
  have heq : compactOf m = compactOf n := le_antisymm (compactOf_le_compactOf h) hcodes
  rw [rounded, rounded, heq] at hlt
  exact lt_irrefl _ hlt

/-! ## Both ways -/

/-- **Codes truncate.**  A target has a code of 32 bits with a clear sign, which is read back
as the target with the bytes below its mantissa cleared: nothing of a target of fewer than 24
bits, and less than one part in `2 ^ 15` of any other.  The number that is read back has the
same code, and larger targets have no smaller codes. -/
theorem toCompact_truncates {target : Input} {t : Nat} (ht : target.Spells t) :
    ∃ c d, toCompact target = .ok c ∧ c < 2 ^ 32 ∧ c &&& 0x00800000 = 0 ∧
      ofCompact c = .ok d ∧
      d.toNat = (if c >>> 24 ≤ 3 then t else t - t % 256 ^ (c >>> 24 - 3)) ∧
      d.toNat ≤ t ∧ (0 < t → (t - d.toNat) * 2 ^ 15 < t) ∧ (t < 2 ^ 23 → d.toNat = t) ∧
      toCompact (.digest d) = .ok c ∧
      ∀ (larger : Input) (u : Nat), larger.Spells u → t ≤ u →
        ∃ c', toCompact larger = .ok c' ∧ c ≤ c' := by
  obtain ⟨d, hd, hvalue⟩ := ofCompact_of_readable (readable_compactOf ht.le_maxNat)
  have hrounded : d.toNat = rounded t := hvalue
  have hsize : compactOf t >>> 24 = width t := codeSize_compactOf t
  refine ⟨compactOf t, d, ht.toCompact, compactOf_lt ht.le_maxNat, and_sign_compactOf t, hd,
    ?_, ?_, ?_, ?_, ?_, ?_⟩
  · rw [hrounded, hsize, rounded_eq]
  · rw [hrounded]
    exact rounded_le t
  · intro hpos
    rw [hrounded]
    exact sub_rounded_lt hpos
  · intro hlt
    rw [hrounded, rounded_of_lt hlt]
  · have hspells : (Input.digest d).Spells (rounded t) := hrounded
    rw [hspells.toCompact, compactOf_rounded ht.le_maxNat]
  · intro larger u hu hle
    exact ⟨compactOf u, hu.toCompact, compactOf_le_compactOf hle⟩

/-- The largest target takes a size of 33 bytes, one more than it has itself. -/
theorem toCompact_truncates_largest :
    (Input.number (2 ^ 256 - 1)).Spells (2 ^ 256 - 1) ∧
      ∃ d, toCompact (.number (2 ^ 256 - 1)) = .ok 0x2100ffff ∧ ofCompact 0x2100ffff = .ok d ∧
        d.toNat = 2 ^ 256 - 1 - (2 ^ 256 - 1) % 256 ^ 30 ∧
        toCompact (.digest d) = .ok 0x2100ffff := by
  have hspells : (Input.number (2 ^ 256 - 1)).Spells (2 ^ 256 - 1) := ⟨rfl, by decide⟩
  have hcode : toCompact (.number (2 ^ 256 - 1)) = .ok 0x2100ffff := by decide +kernel
  obtain ⟨c, d, hc, -, -, hd, hvalue, -, -, -, hback, -⟩ := toCompact_truncates hspells
  obtain rfl : c = 0x2100ffff := Except.ok.inj (hc.symm.trans hcode)
  exact ⟨hspells, d, hcode, hd, hvalue, hback⟩

/-- **Which codes are read, and which are written again.**  A code of 32 bits is read unless
it is negative or stands for more than 256 bits; what is read is the number that it stands
for, and has this code exactly when the code is canonical.  Any other integer is refused as a
value. -/
theorem ofCompact_readable_or_refuse (code : Int) :
    (Readable code → ∃ d, ofCompact code = .ok d ∧ d.toNat = codeValue code.toNat ∧
      (toCompact (.digest d) = .ok code.toNat ↔ Canonical code.toNat)) ∧
    (¬ Readable code →
      ∃ message, (ofCompact code).mapError Refusal.failure = .error (.badValue message)) := by
  constructor
  · intro hread
    obtain ⟨d, hd, hvalue⟩ := ofCompact_of_readable hread
    refine ⟨d, hd, hvalue, ?_⟩
    have hspells : (Input.digest d).Spells (codeValue code.toNat) := hvalue
    obtain ⟨c, rfl⟩ := Int.eq_ofNat_of_zero_le hread.nonneg
    rw [hspells.toCompact, Except.ok.injEq]
    exact compactOf_codeValue_iff hread
  · intro hread
    obtain ⟨r, hr⟩ := ofCompact_of_not_readable hread
    exact ⟨r.message, by rw [hr]; rfl⟩

/-- A code of which everything is rounded off is read and not written again, and one of a set
sign is refused. -/
theorem ofCompact_readable_or_refuse_roundedOff :
    Readable 0x01003456 ∧
      (∃ d, ofCompact 0x01003456 = .ok d ∧ d.toNat = 0 ∧
        toCompact (.digest d) ≠ .ok 0x01003456) ∧
      ¬ Readable 0x04923456 ∧
      ∃ message, (ofCompact 0x04923456).mapError Refusal.failure = .error (.badValue message) := by
  have hzero : codeValue 0x01003456 = 0 := by
    rw [codeValue_eq]
    decide
  have hread : Readable 0x01003456 :=
    ⟨by decide, by decide, by decide, hzero.trans_lt (by decide)⟩
  have hsign : ¬ Readable 0x04923456 := fun h => h.unsigned (by decide)
  obtain ⟨d, hd, hvalue, hback⟩ := (ofCompact_readable_or_refuse 0x01003456).1 hread
  have hcanonical : ¬ Canonical 0x01003456 := by
    unfold Canonical
    decide
  exact ⟨hread, ⟨d, hd, hvalue.trans hzero, fun h => hcanonical (hback.1 h)⟩, hsign,
    (ofCompact_readable_or_refuse 0x04923456).2 hsign⟩

end Attest.Target
