import Attest.Proofs.Digest
import Attest.Target
import Mathlib.Order.Bounds.Defs

/-!
# Difficulty as a target and as a count of bits

The target of a difficulty of `b` bits spells `2 ^ (256 - b) - 1`.  A number is at most that just
when it has no more than `256 - b` bits, so comparing a digest with the target is counting the
zero bits that it begins with (`meetsBits_natCast`), and the target itself begins with `b` of
them (`leadingZeroBits_threshold`).
-/

namespace Attest.Target

/-! ## The target of a difficulty -/

/-- The largest digest that begins with `b` zero bits. -/
def threshold (b : Nat) : Digest :=
  .ofNat (2 ^ (256 - b) - 1)

theorem toNat_threshold (b : Nat) : (threshold b).toNat = 2 ^ (256 - b) - 1 := by
  have hpow : 2 ^ (256 - b) ≤ 2 ^ 256 := Nat.pow_le_pow_right (by omega) (by omega)
  have hpos : 0 < 2 ^ (256 - b) := Nat.two_pow_pos _
  apply Digest.toNat_ofNat
  rw [Digest.le_maxNat_iff]
  omega

theorem leadingZeroBits_threshold {b : Nat} (hb : b ≤ 256) :
    (threshold b).leadingZeroBits = b := by
  have hlength : Bytes.bitLength (threshold b).toNat = 256 - b := by
    rw [toNat_threshold, Bytes.bitLength_two_pow_sub_one]
  rw [Digest.leadingZeroBits, hlength, Digest.bitSize]
  omega

theorem ofBits_natCast {b : Nat} (hb : b ≤ 256) : ofBits b = .ok (threshold b) := by
  have hrange : 0 ≤ (b : Int) ∧ (b : Int) ≤ Digest.bitSize :=
    ⟨Int.natCast_nonneg b, by exact_mod_cast hb⟩
  rw [ofBits, if_pos hrange, Int.toNat_natCast]
  rfl

theorem ofBits_of_not_inRange {bits : Int} (h : ¬ (0 ≤ bits ∧ bits ≤ 256)) :
    ofBits bits = .error (.badDifficulty bits) :=
  if_neg h

/-! ## Meeting a difficulty -/

theorem le_threshold_iff (d : Digest) {b : Nat} (hb : b ≤ 256) :
    d.toNat ≤ (threshold b).toNat ↔ b ≤ d.leadingZeroBits := by
  have hpos : 0 < 2 ^ (256 - b) := Nat.two_pow_pos _
  rw [toNat_threshold, d.le_leadingZeroBits_iff hb]
  omega

theorem meetsBits_natCast (d : Digest) {b : Nat} (hb : b ≤ 256) :
    meetsBits d b = .ok (decide (b ≤ d.leadingZeroBits)) := by
  have hmeets : meetsBits d b = .ok (decide (d.toNat ≤ (threshold b).toNat)) := by
    rw [meetsBits, ofBits_natCast hb]
    rfl
  rw [hmeets, decide_eq_decide.2 (le_threshold_iff d hb)]

theorem meetsBits_of_not_inRange (d : Digest) {bits : Int} (h : ¬ (0 ≤ bits ∧ bits ≤ 256)) :
    meetsBits d bits = .error (.badDifficulty bits) := by
  rw [meetsBits, ofBits_of_not_inRange h]
  rfl

theorem meetsBits_eq_true_iff (d : Digest) (bits : Int) :
    meetsBits d bits = .ok true ↔ 0 ≤ bits ∧ bits ≤ d.leadingZeroBits := by
  have hmost : d.leadingZeroBits ≤ 256 := d.leadingZeroBits_le
  by_cases hrange : 0 ≤ bits ∧ bits ≤ 256
  · obtain ⟨b, rfl⟩ := Int.eq_ofNat_of_zero_le hrange.1
    rw [meetsBits_natCast d (by omega), Except.ok.injEq, decide_eq_true_iff]
    omega
  · have hrefused := meetsBits_of_not_inRange d hrange
    constructor
    · intro hmeets
      rw [hrefused] at hmeets
      cases hmeets
    · intro hle
      omega

/-- **The two notions of difficulty agree.**  A difficulty of 0 to 256 bits is met exactly by the
digests that begin with so many zero bits, and any other is refused as a value.  So a digest that
meets a difficulty meets every smaller one, and the zero bits that it begins with are the greatest
that it meets. -/
theorem meetsBits_iff_leadingZeroBits (d : Digest) :
    (∀ bits : Int, 0 ≤ bits → bits ≤ 256 →
      meetsBits d bits = .ok (decide (bits ≤ d.leadingZeroBits))) ∧
    (∀ bits : Int, bits < 0 ∨ 256 < bits →
      ∃ message, (meetsBits d bits).mapError Refusal.failure = .error (.badValue message)) ∧
    (∀ bits fewer : Int, 0 ≤ fewer → fewer ≤ bits → meetsBits d bits = .ok true →
      meetsBits d fewer = .ok true) ∧
    IsGreatest {bits : Int | meetsBits d bits = .ok true} d.leadingZeroBits := by
  refine ⟨?_, ?_, ?_, ?_, ?_⟩
  · intro bits hnonneg hle
    obtain ⟨b, rfl⟩ := Int.eq_ofNat_of_zero_le hnonneg
    rw [meetsBits_natCast d (by omega)]
    simp only [Nat.cast_le]
  · intro bits hout
    refine ⟨(Refusal.badDifficulty bits).message, ?_⟩
    rw [meetsBits_of_not_inRange d (by omega)]
    rfl
  · intro bits fewer hnonneg hle hmeets
    rw [meetsBits_eq_true_iff] at hmeets ⊢
    omega
  · show meetsBits d d.leadingZeroBits = .ok true
    rw [meetsBits_eq_true_iff]
    omega
  · intro bits hmeets
    exact ((meetsBits_eq_true_iff d bits).1 hmeets).2

/-- The digest that spells one begins with 255 zero bits, one fewer than there are bits. -/
theorem meetsBits_iff_leadingZeroBits_one :
    (Digest.ofNat 1).leadingZeroBits = 255 ∧ meetsBits (.ofNat 1) 255 = .ok true ∧
      meetsBits (.ofNat 1) 256 = .ok false ∧ meetsBits (.ofNat 1) 0 = .ok true ∧
      (∃ message,
        (meetsBits (.ofNat 1) 257).mapError Refusal.failure = .error (.badValue message)) ∧
      IsGreatest {bits : Int | meetsBits (.ofNat 1) bits = .ok true} 255 := by
  have hbits : (Digest.ofNat 1).leadingZeroBits = 255 := by decide +kernel
  obtain ⟨hrange, hout, hfewer, hgreatest⟩ := meetsBits_iff_leadingZeroBits (.ofNat 1)
  have hmost : meetsBits (.ofNat 1) 255 = .ok true := by
    rw [hrange 255 (by omega) (by omega), hbits]
    rfl
  have hall : meetsBits (.ofNat 1) 256 = .ok false := by
    rw [hrange 256 (by omega) (by omega), hbits]
    rfl
  rw [hbits] at hgreatest
  exact ⟨hbits, hmost, hall, hfewer 255 0 (by omega) (by omega) hmost, hout 257 (by omega),
    hgreatest⟩

end Attest.Target
