import Attest.Digest
import Attest.Proofs.Bytes
import Attest.Proofs.Hex
import Attest.Proofs.Value

/-!
# Digests as numbers and as text

A digest spells a number of at most 256 bits, each of these is the number of the digest made
from it, and no two digests spell the same one.  All digests have the same length, so that their
order byte by byte is that of their numbers (`lt_iff`).  Its leading zero bits are those that
the number leaves of the 256 (`le_leadingZeroBits_iff`).  As text it is 64 hexadecimal digits,
from which it is read back.
-/

namespace Attest.Digest

theorem le_maxNat_iff (n : Nat) : n ≤ maxNat ↔ n < 2 ^ 256 := by
  have hmax : maxNat + 1 = 2 ^ 256 := rfl
  omega

theorem int_le_maxNat_iff (n : Int) : n ≤ maxNat ↔ n < 2 ^ 256 := by
  have hmax : (maxNat : Int) = 2 ^ 256 - 1 := rfl
  omega

theorem toNat_le_maxNat (d : Digest) : d.toNat ≤ maxNat := by
  have hlt : d.toNat < 256 ^ d.bytes.length := Bytes.toNat_lt d.bytes
  rw [d.length_bytes] at hlt
  rw [le_maxNat_iff]
  omega

theorem toNat_ofNat {n : Nat} (h : n ≤ maxNat) : (ofNat n).toNat = n := by
  rw [le_maxNat_iff] at h
  have hspelled : (ofNat n).toNat = n % 256 ^ 32 := Bytes.toNat_bigEndian 32 n
  rw [hspelled, Nat.mod_eq_of_lt]
  omega

theorem toNat_lt (d : Digest) : d.toNat < 2 ^ 256 :=
  (le_maxNat_iff _).1 d.toNat_le_maxNat

theorem ofNat_toNat (d : Digest) : ofNat d.toNat = d := by
  obtain ⟨bs, hbs⟩ := d
  have hspelled : Bytes.bigEndian 32 (Bytes.toNat bs) = bs := hbs ▸ Bytes.bigEndian_toNat bs
  simp only [ofNat, toNat, hspelled]

theorem toNat_inj {a b : Digest} : a.toNat = b.toNat ↔ a = b := by
  constructor
  · intro h
    rw [← a.ofNat_toNat, h, b.ofNat_toNat]
  · rintro rfl
    rfl

theorem ofInt_natCast {n : Nat} (h : n ≤ maxNat) : ofInt n = .ok (ofNat n) := by
  rw [ofInt, if_pos ⟨Int.natCast_nonneg n, Int.ofNat_le.2 h⟩, Int.toNat_natCast]

theorem ofInt_toNat (d : Digest) : ofInt d.toNat = .ok d := by
  rw [ofInt_natCast d.toNat_le_maxNat, ofNat_toNat]

theorem ofInt_of_not_inRange {n : Int} (h : ¬ (0 ≤ n ∧ n < 2 ^ 256)) :
    ofInt n = .error (outOfRange (.int n)) :=
  if_neg (by rwa [int_le_maxNat_iff])

/-! ## Order -/

theorem lt_iff {a b : Digest} : a < b ↔ a.toNat < b.toNat :=
  Bytes.lt_iff_toNat_lt (a.length_bytes.trans b.length_bytes.symm)

theorem le_iff {a b : Digest} : a ≤ b ↔ a.toNat ≤ b.toNat := by
  have hnot : a ≤ b ↔ ¬ b < a := List.not_lt.symm
  rw [hnot, lt_iff, Nat.not_lt]

/-! ## Leading zero bits -/

theorem leadingZeroBits_le (d : Digest) : d.leadingZeroBits ≤ 256 :=
  Nat.sub_le _ _

theorem le_leadingZeroBits_iff (d : Digest) {b : Nat} (hb : b ≤ 256) :
    b ≤ d.leadingZeroBits ↔ d.toNat < 2 ^ (256 - b) := by
  have hsize : Bytes.bitLength d.toNat ≤ 256 := (Bytes.bitLength_le_iff _ _).2 d.toNat_lt
  rw [← Bytes.bitLength_le_iff, leadingZeroBits, bitSize]
  omega

theorem leadingZeroBits_le_of_le {a b : Digest} (h : a.toNat ≤ b.toNat) :
    b.leadingZeroBits ≤ a.leadingZeroBits := by
  have hb : b.leadingZeroBits ≤ 256 := b.leadingZeroBits_le
  have hlt : b.toNat < 2 ^ (256 - b.leadingZeroBits) := (b.le_leadingZeroBits_iff hb).1 le_rfl
  rw [a.le_leadingZeroBits_iff hb]
  exact h.trans_lt hlt

/-! ## Text -/

theorem toList_toHex (d : Digest) : d.toHex.toList = Hex.digits d.bytes :=
  Hex.toList_encode d.bytes

theorem ofBytes_bytes (d : Digest) : ofBytes d.bytes = .ok d :=
  dif_pos d.length_bytes

theorem parse_toHex (d : Digest) : parse d.toHex = .ok d := by
  have hlength : (Hex.digits d.bytes).length = 64 := by
    rw [Hex.length_digits, d.length_bytes]
  rw [parse, toList_toHex, Hex.unmark_digits]
  simp only [hlength, if_true, Hex.decode_digits, ofBytes_bytes]

end Attest.Digest
