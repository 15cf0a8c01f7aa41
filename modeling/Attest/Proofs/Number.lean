import Attest.Number
import Mathlib.Algebra.Ring.Int.Defs
import Mathlib.Tactic.Common

/-!
# Numbers taken apart by halves

A number that is halved again and again, whether it is even being noted each time, tells the bits of
one place and comes to zero after them (`Number.place?_half`).  Whole floating-point numbers do what
the integers do that they equal; one with a fraction is odd, and goes on as the whole number below
it.
-/

namespace Attest

namespace Number

/-- The place that a number counts as where it is taken apart by halves. A number with a fraction is
odd, and its half is the half of the whole number below it; a negative number comes to no end. -/
def place? : Number → Option Nat
  | int n => n.toNat?
  | float x =>
    match x.toInt?, x.floor.toInt? with
    | some n, _ => n.toNat?
    | none, some n => n.toNat?.map fun n => n / 2 * 2 + 1
    | none, none => none

theorem toNat?_half (n : Int) : (n / 2).toNat? = n.toNat?.map (· / 2) := by
  cases n <;> rfl

theorem compareInt_zero_iff (x : Binary64) : x.compareInt 0 = some .eq ↔ x.toInt? = some 0 := by
  have hzero : ∀ m p : Nat, m = 0 ↔ m % p = 0 ∧ m / p = 0 := by
    intro m p
    refine ⟨fun h => by simp [h], fun ⟨hmod, hdiv⟩ => ?_⟩
    rw [← Nat.div_add_mod m p, hmod, hdiv, Nat.mul_zero]
  unfold Binary64.compareInt Binary64.toInt?
  cases x.datum with
  | finite negative m q =>
    cases q with
    | ofNat k => cases negative <;> simp
    | negSucc k =>
      have hparts := hzero m (2 ^ (k + 1))
      cases negative <;> simp <;> exact_mod_cast hparts
  | infinite negative => cases negative <;> simp
  | nan => simp

theorem compare_zero_iff (x : Number) : x.compare (.int 0) = some .eq ↔ x.place? = some 0 := by
  cases x with
  | int n =>
    rw [compare, place?, Option.some.injEq, Int.compare_eq_eq, Int.mem_toNat?]
    rfl
  | float x =>
    rw [compare, compareInt_zero_iff, place?]
    cases x.toInt? <;> cases x.floor.toInt? <;> simp [Int.mem_toNat?]

theorem isEven_of_place? {x : Number} {n : Nat} (h : x.place? = some n) :
    x.isEven = decide (n % 2 = 0) := by
  cases x with
  | int m =>
    obtain rfl := Int.mem_toNat?.1 h
    rw [isEven, decide_eq_decide]
    omega
  | float x =>
    rw [place?] at h
    rw [isEven]
    split at h
    · next m hwhole =>
      obtain rfl := Int.mem_toNat?.1 h
      rw [hwhole, Option.any_some, decide_eq_decide]
      omega
    · next m hwhole hfloor =>
      obtain ⟨k, -, rfl⟩ := Option.map_eq_some_iff.1 h
      rw [hwhole, Option.any_none, eq_comm, decide_eq_false_iff_not]
      omega
    · cases h

theorem place?_half (x : Number) : x.half.place? = x.place?.map (· / 2) := by
  cases x with
  | int n => exact toNat?_half n
  | float x =>
    rw [half, place?.eq_2 x]
    cases hwhole : x.toInt? with
    | some n => exact toNat?_half n
    | none =>
      cases hfloor : x.floor.toInt? with
      | some n =>
        have hodd : ∀ m, (m / 2 * 2 + 1) / 2 = m / 2 := by omega
        refine (toNat?_half n).trans ?_
        simp only [Option.map_map, Function.comp_def, hodd]
      | none =>
        show (float x).place? = none
        rw [place?, hwhole, hfloor]

end Number

/-- The place that data counts as for an index. -/
def Value.place? (v : Value) : Option Nat :=
  v.number?.bind Number.place?

end Attest
