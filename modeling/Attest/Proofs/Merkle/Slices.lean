import Attest.Proofs.Merkle.Commitment
import Mathlib.Algebra.Order.Floor.Div
import Mathlib.GroupTheory.GroupAction.Ring

/-!
# Levels as roots of slices

Building goes upwards, a level at a time.  Seen from above, the node at position `j` of
level `k` stands over the leaves from `j * 2 ^ k` up to `(j + 1) * 2 ^ k`, as far as there
are so many, and is what splitting those in halves gives (`subroot`).  The two views meet
in two facts about slices:

* `take_slice`, `secondHalf_slice`: the halves of a slice are the slices of the two nodes
  below, or twice the first of them where there is no second;
* `lt_length_level_iff`: a position is one of level `k` just when its slice is not empty.
-/

namespace Attest.Merkle

/-! ## Slices -/

section Slice

variable {α : Type}

/-- The entries that the node at position `j` of level `k` stands over. -/
def slice (k j : Nat) (xs : List α) : List α :=
  (xs.drop (j * 2 ^ k)).take (2 ^ k)

theorem take_slice (k j : Nat) (xs : List α) :
    (slice (k + 1) j xs).take (2 ^ k) = slice k (2 * j) xs := by
  have hstart : j * 2 ^ (k + 1) = 2 * j * 2 ^ k := by ring
  have hhalf : min (2 ^ k) (2 ^ (k + 1)) = 2 ^ k := by
    rw [Nat.pow_succ]
    omega
  rw [slice, slice, List.take_take, hhalf, hstart]

theorem drop_slice (k j : Nat) (xs : List α) :
    (slice (k + 1) j xs).drop (2 ^ k) = slice k (2 * j + 1) xs := by
  have hstart : j * 2 ^ (k + 1) + 2 ^ k = (2 * j + 1) * 2 ^ k := by ring
  have hhalf : 2 ^ (k + 1) - 2 ^ k = 2 ^ k := by
    rw [Nat.pow_succ]
    omega
  rw [slice, slice, List.drop_take, hhalf, List.drop_drop, hstart]

theorem slice_eq_nil_iff (k j : Nat) (xs : List α) :
    slice k j xs = [] ↔ xs.length ≤ j * 2 ^ k := by
  have hpos := Nat.two_pow_pos k
  rw [← List.length_eq_zero_iff, slice, List.length_take, List.length_drop]
  omega

theorem secondHalf_slice (k j : Nat) (xs : List α) :
    secondHalf k (slice (k + 1) j xs) =
      if xs.length ≤ (2 * j + 1) * 2 ^ k then slice k (2 * j) xs
      else slice k (2 * j + 1) xs := by
  rw [secondHalf, take_slice, drop_slice]
  simp only [slice_eq_nil_iff]

end Slice

/-! ## Roots of slices -/

/-- The root over at most `2 ^ k` leaves, from above: the join of the roots over the two
halves, where the first half stands in for a second one that is empty. -/
def subroot : Nat → List Digest → Digest
  | 0, ds => ds.headD .zero
  | k + 1, ds => (subroot k (ds.take (2 ^ k))).join (subroot k (secondHalf k ds))

theorem subroot_slice_of_gt {k j : Nat} {ds : List Digest}
    (h : (2 * j + 1) * 2 ^ k < ds.length) :
    subroot (k + 1) (slice (k + 1) j ds) =
      (subroot k (slice k (2 * j) ds)).join (subroot k (slice k (2 * j + 1) ds)) := by
  rw [subroot, take_slice, secondHalf_slice, if_neg (Nat.not_le_of_lt h)]

theorem subroot_slice_of_le {k j : Nat} {ds : List Digest}
    (h : ds.length ≤ (2 * j + 1) * 2 ^ k) :
    subroot (k + 1) (slice (k + 1) j ds) =
      (subroot k (slice k (2 * j) ds)).join (subroot k (slice k (2 * j) ds)) := by
  rw [subroot, take_slice, secondHalf_slice, if_pos h]

/-! ## Levels -/

theorem lt_length_level_iff {ds level : List Digest} {k : Nat}
    (h : (levelsFrom ds)[k]? = some level) (j : Nat) :
    j < level.length ↔ j * 2 ^ k < ds.length := by
  induction k generalizing level j with
  | zero =>
    rw [getElem?_levelsFrom_zero, Option.some.injEq] at h
    rw [h, Nat.pow_zero, Nat.mul_one]
  | succ k ih =>
    obtain ⟨below, hbelow, rfl⟩ := levelsFrom_succ h
    have hpow : 2 * j * 2 ^ k = j * 2 ^ (k + 1) := by ring
    rw [length_nextLevel, ← hpow, ← ih hbelow]
    omega

theorem length_level {ds level : List Digest} {k : Nat}
    (h : (levelsFrom ds)[k]? = some level) : level.length = ds.length ⌈/⌉ 2 ^ k := by
  have hpos := Nat.two_pow_pos k
  refine eq_of_forall_lt_iff fun j => ?_
  rw [lt_length_level_iff h, ← not_le, ← not_le, ceilDiv_le_iff_le_mul hpos, Nat.mul_comm]

/-- Each node of a level is the root over its slice of the leaves. -/
theorem getElem?_level {ds level : List Digest} {k : Nat}
    (h : (levelsFrom ds)[k]? = some level) {j : Nat} (hj : j < level.length) :
    level[j]? = some (subroot k (slice k j ds)) := by
  induction k generalizing level j with
  | zero =>
    rw [getElem?_levelsFrom_zero, Option.some.injEq] at h
    subst h
    simp [subroot, slice, List.headD_eq_head?_getD, List.head?_take, List.getElem?_eq_getElem hj]
  | succ k ih =>
    obtain ⟨below, hbelow, rfl⟩ := levelsFrom_succ h
    rw [length_nextLevel] at hj
    have hleft : 2 * j < below.length := by omega
    rw [getElem?_nextLevel, ih hbelow hleft, Option.map_some]
    -- Without a right neighbour the second half of the slice is empty.
    by_cases hright : 2 * j + 1 < below.length
    · rw [ih hbelow hright, Option.getD_some,
        subroot_slice_of_gt ((lt_length_level_iff hbelow _).1 hright)]
    · have hlone : ds.length ≤ (2 * j + 1) * 2 ^ k := by
        rw [← Nat.not_lt, ← lt_length_level_iff hbelow]
        exact hright
      rw [List.getElem?_eq_none (by omega), Option.getD_none, subroot_slice_of_le hlone]

/-- **The levels of a tree.**  Without leaves there is no tree.  Over `n` leaves there is one
with a level more than the least `h` for which `n ≤ 2 ^ h`.  Level `k` has `n / 2 ^ k` nodes,
rounded up, the last level the root alone, and the node at position `j` of level `k` is the
root over the leaves from `j * 2 ^ k` on, up to `2 ^ k` of them, of which there is at least
one. -/
theorem ofLeaves_levels (leaves : List Digest) :
    (leaves = [] → Tree.ofLeaves leaves = .error .emptyInput) ∧
    (leaves ≠ [] → ∃ t, Tree.ofLeaves leaves = .ok t ∧ t.leaves = leaves ∧
      (∀ h, heightOf leaves.length ≤ h ↔ leaves.length ≤ 2 ^ h) ∧
      t.levels.length = heightOf leaves.length + 1 ∧
      t.levels[heightOf leaves.length]? = some [t.root] ∧
      ∀ k level, t.levels[k]? = some level →
        level.length = leaves.length ⌈/⌉ 2 ^ k ∧
        ∀ j, j < level.length →
          slice k j leaves ≠ [] ∧ level[j]? = some (subroot k (slice k j leaves))) := by
  constructor
  · rintro rfl
    rfl
  · intro hne
    obtain ⟨t, rfl⟩ := Tree.exists_leaves_eq hne
    have hheight : t.height = heightOf t.leaves.length := t.height_eq
    refine ⟨t, t.ofLeaves_leaves, rfl, heightOf_le_iff _, ?_, ?_, ?_⟩
    · rw [t.length_levels, hheight]
    · rw [← hheight, t.getElem?_levels_height]
    · intro k level hlevel
      rw [t.levels_eq] at hlevel
      refine ⟨length_level hlevel, fun j hj => ⟨?_, getElem?_level hlevel hj⟩⟩
      rw [Ne, slice_eq_nil_iff, Nat.not_le]
      exact (lt_length_level_iff hlevel j).1 hj

/-- Over five leaves the last one is alone on two levels, and joined with itself on both. -/
theorem ofLeaves_levels_five :
    [Digest.ofNat 1, .ofNat 2, .ofNat 3, .ofNat 4, .ofNat 5] ≠ [] ∧
      ∃ t, Tree.ofLeaves [.ofNat 1, .ofNat 2, .ofNat 3, .ofNat 4, .ofNat 5] = .ok t ∧
        t.levels.length = 4 ∧ ∃ level, t.levels[2]? = some level ∧ level.length = 2 ∧
          level[1]? = some (((Digest.ofNat 5).join (.ofNat 5)).join
            ((Digest.ofNat 5).join (.ofNat 5))) := by
  have hne : [Digest.ofNat 1, .ofNat 2, .ofNat 3, .ofNat 4, .ofNat 5] ≠ [] := by simp
  obtain ⟨t, htree, -, -, hlength, -, hlevels⟩ := (ofLeaves_levels _).2 hne
  have hfour : t.levels.length = 4 := hlength
  obtain ⟨level, hlevel⟩ : ∃ level, t.levels[2]? = some level :=
    ⟨_, List.getElem?_eq_getElem (by omega)⟩
  obtain ⟨htwo, hnodes⟩ := hlevels 2 level hlevel
  have hlevelLength : level.length = 2 := htwo
  exact ⟨hne, t, htree, hfour, level, hlevel, hlevelLength, (hnodes 1 (by omega)).2⟩

end Attest.Merkle
