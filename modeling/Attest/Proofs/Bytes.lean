import Attest.Bytes
import Attest.Proofs.Numeral

/-!
# Bytes as digits

The two readings of byte strings in terms of numerals to base 256: a byte string spells the
number of its digits, and the shortest spelling of a number is its shortest numeral.  The
width of the latter, given by bits, is brought to base 256 by what both counts bound
(`bitLength_le_iff`).  A spelling of a fixed width keeps the number modulo a power of 256
(`toNat_bigEndian`), and a byte string is the spelling of its own width of what it spells
(`bigEndian_toNat`).  Of two byte strings of one length the first to differ from the front is
the one with the smaller number (`lt_iff_toNat_lt`).
-/

namespace Attest.Bytes

theorem toNat_eq_value (bs : Bytes) : toNat bs = Numeral.value 256 (bs.map (·.toNat)) := by
  rw [toNat, Numeral.value, List.foldl_map]

theorem bitLength_le_iff (n h : Nat) : bitLength n ≤ h ↔ n < 2 ^ h := by
  unfold bitLength
  split
  · next hzero => simp [hzero]
  · next hpos => rw [Nat.succ_le_iff, Nat.log2_lt hpos]

theorem bitLength_two_pow_sub_one (k : Nat) : bitLength (2 ^ k - 1) = k := by
  apply eq_of_forall_ge_iff
  intro h
  have hpos : 0 < 2 ^ k := Nat.two_pow_pos k
  have hpow : 2 ^ k ≤ 2 ^ h ↔ k ≤ h := Nat.pow_le_pow_iff_right (by omega)
  rw [bitLength_le_iff, ← hpow]
  omega

theorem byteLength_le_iff (n w : Nat) : (bitLength n + 7) / 8 ≤ w ↔ n < 256 ^ w := by
  have hpow : 256 ^ w = 2 ^ (8 * w) := by rw [Nat.pow_mul]
  rw [hpow, ← bitLength_le_iff]
  omega

theorem byteLength_eq (n : Nat) : (bitLength n + 7) / 8 = (Nat.digits 256 n).length := by
  apply eq_of_forall_ge_iff
  intro w
  rw [byteLength_le_iff, Nat.digits_length_le_iff (by omega)]

theorem littleEndian_length_digits (n : Nat) :
    littleEndian (Nat.digits 256 n).length n = (Nat.digits 256 n).map UInt8.ofNat := by
  induction n using Nat.strong_induction_on with
  | h n ih =>
    by_cases hn : n = 0
    · subst hn
      simp [littleEndian]
    · have hlt : n / 256 < n := by omega
      rw [Nat.digits_def' (by omega) (by omega), List.length_cons, littleEndian, ih _ hlt,
        List.map_cons]

theorem ofNat_eq_map (n : Nat) : ofNat n = (Numeral.digits 256 n).map UInt8.ofNat := by
  rw [ofNat, bigEndian, byteLength_eq, littleEndian_length_digits, Numeral.digits,
    List.map_reverse]

/-! ## Fixed widths -/

theorem toNat_append_singleton (bs : Bytes) (b : UInt8) :
    toNat (bs ++ [b]) = 256 * toNat bs + b.toNat := by
  rw [toNat, List.foldl_append]
  rfl

theorem toNat_lt (bs : Bytes) : toNat bs < 256 ^ bs.length := by
  induction bs using List.reverseRecOn with
  | nil => simp [toNat]
  | append_singleton bs b ih =>
    have hb : b.toNat < 256 := b.toNat_lt
    rw [toNat_append_singleton, List.length_append, List.length_singleton, Nat.pow_succ]
    omega

theorem bigEndian_succ (width n : Nat) :
    bigEndian (width + 1) n = bigEndian width (n / 256) ++ [UInt8.ofNat (n % 256)] := by
  rw [bigEndian, littleEndian, List.reverse_cons]
  rfl

theorem toNat_bigEndian (width n : Nat) : toNat (bigEndian width n) = n % 256 ^ width := by
  induction width generalizing n with
  | zero => simp [bigEndian, littleEndian, toNat, Nat.mod_one]
  | succ width ih =>
    have hbyte : (UInt8.ofNat (n % 256)).toNat = n % 256 :=
      UInt8.toNat_ofNat_of_lt' (Nat.mod_lt n (by omega))
    rw [bigEndian_succ, toNat_append_singleton, ih, hbyte, Nat.pow_succ', Nat.mod_mul,
      Nat.add_comm]

theorem bigEndian_toNat (bs : Bytes) : bigEndian bs.length (toNat bs) = bs := by
  induction bs using List.reverseRecOn with
  | nil => rfl
  | append_singleton bs b ih =>
    have hb : b.toNat < 256 := b.toNat_lt
    have hrest : (256 * toNat bs + b.toNat) / 256 = toNat bs := by omega
    have hlast : (256 * toNat bs + b.toNat) % 256 = b.toNat := by omega
    rw [toNat_append_singleton, List.length_append, List.length_singleton, bigEndian_succ, hrest,
      hlast, ih, UInt8.ofNat_toNat]

/-! ## Order -/

theorem toNat_cons (b : UInt8) (bs : Bytes) :
    toNat (b :: bs) = b.toNat * 256 ^ bs.length + toNat bs := by
  induction bs using List.reverseRecOn with
  | nil => simp [toNat]
  | append_singleton bs c ih =>
    rw [← List.cons_append, toNat_append_singleton, toNat_append_singleton, ih,
      List.length_append, List.length_singleton, Nat.pow_succ', Nat.mul_left_comm, Nat.mul_add,
      Nat.add_assoc]

/-- Of two numbers with a first digit and a rest below its weight `w`, the first digits decide
unless they are equal. -/
theorem mul_add_lt_mul_add_iff {a b x y w : Nat} (hx : x < w) (hy : y < w) :
    a * w + x < b * w + y ↔ a < b ∨ a = b ∧ x < y := by
  rcases Nat.lt_trichotomy a b with hless | rfl | hgreater
  · have hweight : (a + 1) * w ≤ b * w := Nat.mul_le_mul_right w hless
    rw [Nat.succ_mul] at hweight
    omega
  · omega
  · have hweight : (b + 1) * w ≤ a * w := Nat.mul_le_mul_right w hgreater
    rw [Nat.succ_mul] at hweight
    omega

theorem lt_iff_toNat_lt {as bs : Bytes} (h : as.length = bs.length) :
    as < bs ↔ toNat as < toNat bs := by
  induction as generalizing bs with
  | nil =>
    obtain rfl : bs = [] := List.length_eq_zero_iff.1 h.symm
    simp
  | cons a as ih =>
    cases bs with
    | nil => cases h
    | cons b bs =>
      have hlength : as.length = bs.length := Nat.succ.inj h
      have has : toNat as < 256 ^ bs.length := hlength ▸ toNat_lt as
      rw [List.cons_lt_cons_iff, ih hlength, toNat_cons, toNat_cons, hlength,
        mul_add_lt_mul_add_iff has (toNat_lt bs), UInt8.lt_iff_toNat_lt, UInt8.toNat_inj]

end Attest.Bytes
