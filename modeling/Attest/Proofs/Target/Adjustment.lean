import Attest.Proofs.Target.Retarget
import Mathlib.Algebra.Order.Field.Basic
import Mathlib.Tactic.NormNum

/-!
# An adjustment as a rational factor

The time that an interval took, over the time that it should have taken, gives a factor between
a quarter and four, by which a target is multiplied and rounded down.  The program divides
first and then keeps the quotient between two integers.  This comes to the same because rounding
down is monotone, and therefore passes through both bounds of the factor (`floor_mul_clamp`).
-/

namespace Attest.Target

/-- The ratio of the times, no smaller than a quarter and no larger than four.  Less than no time
counts as none. -/
def factor (actual expected : Int) : ℚ :=
  max (1 / 4) (min 4 ((max actual 0 : Int) / expected))

theorem floor_mul_clamp (t : Nat) (low high ratio : ℚ) :
    ⌊(t : ℚ) * max low (min high ratio)⌋₊ =
      max ⌊(t : ℚ) * low⌋₊ (min ⌊(t : ℚ) * high⌋₊ ⌊(t : ℚ) * ratio⌋₊) := by
  have ht : (0 : ℚ) ≤ t := Nat.cast_nonneg t
  calc ⌊(t : ℚ) * max low (min high ratio)⌋₊
      = ⌊max (t * low) (min (t * high) (t * ratio))⌋₊ := by
        rw [mul_max_of_nonneg _ _ ht, mul_min_of_nonneg _ _ ht]
    _ = max ⌊(t : ℚ) * low⌋₊ (min ⌊(t : ℚ) * high⌋₊ ⌊(t : ℚ) * ratio⌋₊) := by
        rw [Nat.floor_mono.map_max, Nat.floor_mono.map_min]

theorem floor_mul_ratio (t : Nat) (actual : Int) {expected : Int} (hexpected : 0 < expected) :
    ⌊(t : ℚ) * ((max actual 0 : Int) / expected)⌋₊ = t * actual.toNat / expected.toNat := by
  have hactual : ((max actual 0 : Int) : ℚ) = actual.toNat := by
    rw [← Int.ofNat_toNat, Int.cast_natCast]
  have hexpected' : (expected : ℚ) = expected.toNat := by
    rw [← Int.cast_natCast, Int.toNat_of_nonneg hexpected.le]
  rw [hactual, hexpected', ← mul_div_assoc]
  exact_mod_cast Nat.floor_div_eq_div (K := ℚ) (t * actual.toNat) expected.toNat

theorem adjusted_eq_floor (t : Nat) (actual : Int) {expected : Int} (hexpected : 0 < expected) :
    adjusted t actual expected.toNat =
      min (2 ^ 256 - 1) ⌊(t : ℚ) * factor actual expected⌋₊ := by
  have hquarter : ⌊(t : ℚ) * (1 / 4)⌋₊ = t / 4 := by
    rw [mul_one_div]
    exact_mod_cast Nat.floor_div_eq_div (K := ℚ) t 4
  have hfour : ⌊(t : ℚ) * 4⌋₊ = t * 4 := by
    exact_mod_cast Nat.floor_natCast (R := ℚ) (t * 4)
  have hscaled := floor_mul_ratio t actual hexpected
  have hmax : Digest.maxNat = 2 ^ 256 - 1 := rfl
  rw [factor, floor_mul_clamp, hquarter, hfour, hscaled]
  -- The two bounds are in order, so it does not matter which is applied first.
  unfold adjusted adjustmentLimit
  dsimp only
  omega

theorem factor_self {time : Int} (h : 0 < time) : factor time time = 1 := by
  have hratio : ((max time 0 : Int) : ℚ) / time = 1 := by
    rw [max_eq_left h.le]
    exact div_self (by exact_mod_cast h.ne')
  rw [factor, hratio]
  norm_num

theorem adjusted_self {t : Nat} (ht : t ≤ Digest.maxNat) {time : Int} (h : 0 < time) :
    adjusted t time time.toNat = t := by
  rw [adjusted_eq_floor t time h, factor_self h, mul_one, Nat.floor_natCast]
  exact min_eq_right ht

theorem retarget_of_not_inRange {n : Int} (hn : n < 0 ∨ 2 ^ 256 ≤ n) (actual : Int)
    {expected : Int} (hexpected : 0 < expected) :
    retarget (.number n) actual expected = .error (.outOfRange n) := by
  have hrange : ¬ (0 ≤ n ∧ n ≤ Digest.maxNat) := by
    rw [Digest.int_le_maxNat_iff]
    omega
  rw [retarget, if_neg (not_le.2 hexpected), Input.value, if_neg hrange]
  rfl

/-- **An adjustment is exact.**  With an expected time there always is a next target, and it is the
old one times the factor, rounded down and cut off at the largest target; where the interval took as
long as expected it is the old one.  Without an expected time, or for a number that is no target,
the adjustment is refused as a value. -/
theorem retarget_eq_floor_or_refuse (old : Input) (actual expected : Int) :
    (∀ t, old.Spells t → 0 < expected →
      ∃ d, retarget old actual expected = .ok d ∧
        d.toNat = min (2 ^ 256 - 1) ⌊(t : ℚ) * factor actual expected⌋₊ ∧
        (actual = expected → d.toNat = t ∧ ∀ given, old = .digest given → d = given)) ∧
    ((expected ≤ 0 ∨ ∃ n, old = .number n ∧ (n < 0 ∨ 2 ^ 256 ≤ n)) →
      ∃ message,
        (retarget old actual expected).mapError Refusal.failure = .error (.badValue message)) := by
  constructor
  · intro t hold hexpected
    have hle : adjusted t actual expected.toNat ≤ Digest.maxNat := adjusted_le_maxNat _ _ _
    refine ⟨_, retarget_of_spells hold hexpected, ?_, ?_⟩
    · rw [Digest.toNat_ofNat hle, adjusted_eq_floor t actual hexpected]
    · rintro rfl
      rw [adjusted_self hold.le_maxNat hexpected]
      refine ⟨Digest.toNat_ofNat hold.le_maxNat, ?_⟩
      rintro given rfl
      obtain rfl : given.toNat = t := hold
      exact given.ofNat_toNat
  · intro hbad
    by_cases hexpected : expected ≤ 0
    · exact ⟨_, by rw [retarget, if_pos hexpected]; rfl⟩
    · obtain ⟨n, rfl, hn⟩ := hbad.resolve_left hexpected
      exact ⟨_, by rw [retarget_of_not_inRange hn actual (not_le.1 hexpected)]; rfl⟩

/-- A target of three after an interval that took 35 of 6 expected seconds, which is a factor of
four, and after one that took five of six. -/
theorem retarget_eq_floor_or_refuse_three :
    (Input.number 3).Spells 3 ∧ (0 : Int) < 6 ∧
      (∃ d, retarget (.number 3) 35 6 = .ok d ∧ d.toNat = 12) ∧
      (∃ d, retarget (.number 3) 5 6 = .ok d ∧ d.toNat = 2) ∧
      (∃ d, retarget (.number 3) 6 6 = .ok d ∧ d.toNat = 3) ∧
      ∃ message, (retarget (.number (-1)) 5 6).mapError Refusal.failure =
        .error (.badValue message) := by
  have hspells : (Input.number 3).Spells 3 := ⟨rfl, by decide⟩
  have hclamped : factor 35 6 = 4 := by norm_num [factor]
  have hratio : factor 5 6 = 5 / 6 := by norm_num [factor]
  have hpos : (0 : Int) < 6 := by decide
  obtain ⟨d, hd, hvalue, -⟩ := (retarget_eq_floor_or_refuse (.number 3) 35 6).1 3 hspells hpos
  obtain ⟨e, he, hvalue', -⟩ := (retarget_eq_floor_or_refuse (.number 3) 5 6).1 3 hspells hpos
  obtain ⟨f, hf, -, hsame⟩ := (retarget_eq_floor_or_refuse (.number 3) 6 6).1 3 hspells hpos
  rw [hclamped] at hvalue
  rw [hratio] at hvalue'
  refine ⟨hspells, hpos, ⟨d, hd, ?_⟩, ⟨e, he, ?_⟩, ⟨f, hf, (hsame rfl).1⟩, ?_⟩
  · rw [hvalue]
    norm_num
  · rw [hvalue']
    norm_num
  · exact (retarget_eq_floor_or_refuse (.number (-1)) 5 6).2 (.inr ⟨-1, rfl, .inl (by decide)⟩)

end Attest.Target
