import Attest.Text.Case
import Mathlib.Tactic.Common

/-!
# Letter case in ASCII

The tables of letter case are for all of Unicode.  Only their first runs reach into ASCII, and
these are its letters, so of an ASCII text the tables say what `Char.isUpper` and
`Char.isLower` say.
-/

namespace Attest.Text

theorem isUpper_iff (c : Char) : c.isUpper = true ↔ 65 ≤ c.toNat ∧ c.toNat ≤ 90 := by
  show decide (65 ≤ c.val ∧ c.val ≤ 90) = true ↔ _
  simp [UInt32.le_iff_toNat_le, ← Char.toNat_val]

theorem isLower_iff (c : Char) : c.isLower = true ↔ 97 ≤ c.toNat ∧ c.toNat ≤ 122 := by
  show (decide (97 ≤ c.val) && decide (c.val ≤ 122)) = true ↔ _
  simp [UInt32.le_iff_toNat_le, ← Char.toNat_val]

theorem toLower_of_not_isUpper {c : Char} (h : ¬ c.isUpper = true) : c.toLower = c :=
  dif_neg fun hrange => h (decide_eq_true hrange)

theorem toUpper_of_not_isLower {c : Char} (h : ¬ c.isLower = true) : c.toUpper = c :=
  dif_neg fun hrange => h (Bool.and_eq_true_iff.2 (hrange.imp decide_eq_true decide_eq_true))

/-! ## Runs -/

theorem isOnRun_one (first last n : Nat) :
    isOnRun first last 1 n = (decide (first ≤ n) && decide (n ≤ last)) := by
  simp [isOnRun, Nat.mod_one]

theorem isOnRun_of_lt {first n : Nat} (h : n < first) (last step : Nat) :
    isOnRun first last step n = false := by
  have hfirst : ¬ first ≤ n := by omega
  simp [isOnRun, hfirst]

theorem loweredRuns_toList :
    ∃ runs, loweredRuns.toList = (0x41, 0x5a, 1, 0x61) :: runs ∧ ∀ run ∈ runs, 128 ≤ run.1 :=
  ⟨loweredRuns.toList.tail, rfl, by decide +kernel⟩

theorem raisedRuns_toList :
    ∃ runs, raisedRuns.toList = (0x61, 0x7a, 1) :: runs ∧ ∀ run ∈ runs, 128 ≤ run.1 :=
  ⟨raisedRuns.toList.tail, rfl, by decide +kernel⟩

/-! ## ASCII -/

section ascii

variable {c : Char}

theorem lowered_of_lt (h : c.toNat < 128) :
    lowered c = if c.isUpper then [Char.ofNat (0x61 + (c.toNat - 0x41))] else [c] := by
  obtain ⟨runs, hruns, hfar⟩ := loweredRuns_toList
  have hupper : isOnRun 0x41 0x5a 1 c.toNat = c.isUpper := by
    rw [isOnRun_one, Bool.eq_iff_iff, isUpper_iff]
    simp
  have hmark : c.toNat ≠ 0x130 := by omega
  rw [lowered, ← Array.find?_toList, hruns, List.find?_cons, List.find?_eq_none.2 ?later,
    if_neg hmark]
  · simp only [hupper]
    cases c.isUpper <;> rfl
  case later =>
    intro run hrun
    have hlt : c.toNat < run.1 := Nat.lt_of_lt_of_le h (hfar run hrun)
    simp [isOnRun_of_lt hlt]

theorem isLowered_of_lt (h : c.toNat < 128) : isLowered c = c.isUpper := by
  rw [isLowered, lowered_of_lt h]
  by_cases hupper : c.isUpper = true
  · have hother : Char.ofNat (0x61 + (c.toNat - 0x41)) ≠ c := by
      obtain ⟨hlow, hhigh⟩ := (isUpper_iff c).1 hupper
      have hvalid : (0x61 + (c.toNat - 0x41)).isValidChar := Or.inl (by omega)
      have htoNat : (Char.ofNat (0x61 + (c.toNat - 0x41))).toNat = 0x61 + (c.toNat - 0x41) := by
        rw [Char.ofNat, dif_pos hvalid]
        rfl
      rw [Ne, ← Char.toNat_inj, htoNat]
      omega
    simp [hupper, hother]
  · simp [hupper]

theorem isRaised_of_lt (h : c.toNat < 128) : isRaised c = c.isLower := by
  obtain ⟨runs, hruns, hfar⟩ := raisedRuns_toList
  have hlower : isOnRun 0x61 0x7a 1 c.toNat = c.isLower := by
    rw [isOnRun_one, Bool.eq_iff_iff, isLower_iff]
    simp
  rw [isRaised, ← Array.any_toList, hruns, List.any_cons, List.any_eq_false.2 ?later]
  · simp only [hlower, Bool.or_false]
  case later =>
    intro run hrun
    have hlt : c.toNat < run.1 := Nat.lt_of_lt_of_le h (hfar run hrun)
    simp [isOnRun_of_lt hlt]

end ascii

theorem isMixedCase_of_lt {cs : List Char} (h : ∀ c ∈ cs, c.toNat < 128) :
    isMixedCase cs = (cs.any Char.isUpper && cs.any Char.isLower) := by
  have hany : ∀ {p q : Char → Bool}, (∀ c ∈ cs, p c = q c) → cs.any p = cs.any q := by
    intro p q hpq
    rw [Bool.eq_iff_iff, List.any_eq_true, List.any_eq_true]
    exact exists_congr fun c => and_congr_right fun hc => by rw [hpq c hc]
  rw [isMixedCase, hany fun c hc => isLowered_of_lt (h c hc),
    hany fun c hc => isRaised_of_lt (h c hc)]

end Attest.Text
