import Attest.Merkle.Tree
import Attest.Proofs.Bytes
import Attest.Proofs.Collision
import Mathlib.Tactic.Ring

/-!
# The levels of a tree

What one level makes of the level below it, and what follows for all levels from one
level upwards.  Everything about trees is derived from two facts:

* `getElem?_nextLevel`: node `i` of the next level joins the nodes `2 * i` and
  `2 * i + 1`, or node `2 * i` with itself where it is the last;
* `levelsFrom_of_one_lt`: the levels from a level of several nodes are that level and
  the levels from the next one.

`Tree.hashed` lists the strings that are hashed while a tree is built.
-/

namespace Attest.Merkle

/-! ## One level -/

/-- The strings that are hashed twice to give the nodes above a level. -/
def pairs : List Digest → List Bytes
  | [] => []
  | [d] => [Digest.pair d d]
  | left :: right :: rest => Digest.pair left right :: pairs rest

theorem nextLevel_eq_map (ds : List Digest) :
    nextLevel ds = (pairs ds).map doubleSha256 := by
  fun_induction pairs ds with
  | case1 => rfl
  | case2 d => rfl
  | case3 left right rest ih =>
    rw [nextLevel, ih]
    rfl

theorem getElem?_pairs (ds : List Digest) (i : Nat) :
    (pairs ds)[i]? =
      ds[2 * i]?.map fun left => Digest.pair left (ds[2 * i + 1]?.getD left) := by
  induction i generalizing ds with
  | zero => rcases ds with _ | ⟨left, _ | ⟨right, rest⟩⟩ <;> rfl
  | succ i ih =>
    rcases ds with _ | ⟨left, _ | ⟨right, rest⟩⟩
    · rfl
    · simp [pairs]
    · simpa [pairs, Nat.mul_add] using ih rest

theorem getElem?_nextLevel (ds : List Digest) (i : Nat) :
    (nextLevel ds)[i]? =
      ds[2 * i]?.map fun left => left.join (ds[2 * i + 1]?.getD left) := by
  rw [nextLevel_eq_map, List.getElem?_map, getElem?_pairs, Option.map_map]
  rfl

theorem pair_mem_pairs {ds : List Digest} {i : Nat} {left : Digest}
    (h : ds[2 * i]? = some left) :
    Digest.pair left (ds[2 * i + 1]?.getD left) ∈ pairs ds := by
  apply List.mem_of_getElem? (i := i)
  rw [getElem?_pairs, h]
  rfl

theorem nextLevel_ne_nil {ds : List Digest} (h : ds ≠ []) : nextLevel ds ≠ [] := by
  rw [← List.length_pos_iff] at h ⊢
  rw [length_nextLevel]
  omega

/-! ## The levels upwards -/

theorem levelsFrom_of_one_lt {ds : List Digest} (h : 1 < ds.length) :
    levelsFrom ds = ds :: levelsFrom (nextLevel ds) := by
  rw [levelsFrom, if_pos h]

theorem levelsFrom_of_le_one {ds : List Digest} (h : ds.length ≤ 1) :
    levelsFrom ds = [ds] := by
  rw [levelsFrom, if_neg (by omega)]

theorem levelsFrom_ne_nil (ds : List Digest) : levelsFrom ds ≠ [] := by
  rw [levelsFrom]
  split <;> simp

theorem dropLast_levelsFrom_of_one_lt {ds : List Digest} (h : 1 < ds.length) :
    (levelsFrom ds).dropLast = ds :: (levelsFrom (nextLevel ds)).dropLast := by
  rw [levelsFrom_of_one_lt h, List.dropLast_cons_of_ne_nil (levelsFrom_ne_nil _)]

theorem dropLast_levelsFrom_of_le_one {ds : List Digest} (h : ds.length ≤ 1) :
    (levelsFrom ds).dropLast = [] := by
  rw [levelsFrom_of_le_one h]
  rfl

theorem getElem?_levelsFrom_zero (ds : List Digest) : (levelsFrom ds)[0]? = some ds := by
  rw [levelsFrom]
  split <;> rfl

/-- The node at the top of the levels from `ds`. -/
def rootFrom (ds : List Digest) : Digest :=
  ((levelsFrom ds).getLastD []).head?.getD .zero

theorem rootFrom_singleton (d : Digest) : rootFrom [d] = d := by
  rw [rootFrom, levelsFrom_of_le_one (by simp)]
  rfl

theorem rootFrom_nextLevel {ds : List Digest} (h : 1 < ds.length) :
    rootFrom (nextLevel ds) = rootFrom ds := by
  rw [rootFrom, rootFrom, levelsFrom_of_one_lt h, List.getLastD_cons]
  congr 2
  rw [List.getLastD_eq_getLast?, List.getLastD_eq_getLast?,
    List.getLast?_eq_some_getLast (levelsFrom_ne_nil _)]
  rfl

/-- From any level upwards, the levels are those of that level, and the root is kept. -/
theorem levelsFrom_level {ds level : List Digest} {k : Nat}
    (h : (levelsFrom ds)[k]? = some level) :
    (levelsFrom ds).drop k = levelsFrom level ∧ rootFrom level = rootFrom ds := by
  induction k generalizing ds with
  | zero =>
    rw [getElem?_levelsFrom_zero, Option.some.injEq] at h
    subst h
    exact ⟨rfl, rfl⟩
  | succ k ih =>
    by_cases hlength : 1 < ds.length
    · rw [levelsFrom_of_one_lt hlength, List.getElem?_cons_succ] at h
      obtain ⟨hdrop, hroot⟩ := ih h
      rw [levelsFrom_of_one_lt hlength, List.drop_succ_cons]
      exact ⟨hdrop, hroot.trans (rootFrom_nextLevel hlength)⟩
    · rw [levelsFrom_of_le_one (by omega)] at h
      simp at h

/-- Every level but the first is made from the one below it. -/
theorem levelsFrom_succ {ds level : List Digest} {k : Nat}
    (h : (levelsFrom ds)[k + 1]? = some level) :
    ∃ below, (levelsFrom ds)[k]? = some below ∧ level = nextLevel below := by
  have hk : k < (levelsFrom ds).length :=
    Nat.lt_of_succ_lt (List.getElem?_eq_some_iff.1 h).1
  obtain ⟨below, hbelow⟩ : ∃ below, (levelsFrom ds)[k]? = some below :=
    ⟨_, List.getElem?_eq_getElem hk⟩
  refine ⟨below, hbelow, ?_⟩
  have hlevel : (levelsFrom below)[1]? = some level := by
    rw [← (levelsFrom_level hbelow).1, List.getElem?_drop, h]
  have hlength : 1 < below.length := by
    by_contra hle
    rw [levelsFrom_of_le_one (by omega)] at hlevel
    cases hlevel
  rw [levelsFrom_of_one_lt hlength, List.getElem?_cons_succ, getElem?_levelsFrom_zero] at hlevel
  exact (Option.some.inj hlevel).symm

/-- No level is empty above one that is not. -/
theorem ne_nil_of_mem_levelsFrom {ds level : List Digest} (hds : ds ≠ [])
    (h : level ∈ levelsFrom ds) : level ≠ [] := by
  induction ds using levelsFrom.induct with
  | case1 ds hlength ih =>
    rw [levelsFrom_of_one_lt hlength, List.mem_cons] at h
    rcases h with rfl | h
    · exact hds
    · exact ih (nextLevel_ne_nil hds) h
  | case2 ds hlength =>
    rw [levelsFrom_of_le_one (by omega), List.mem_singleton] at h
    rwa [h]

/-! ## Heights -/

/-- The height over `n` leaves is the least `h` with `n ≤ 2 ^ h`. -/
theorem heightOf_le_iff (n h : Nat) : heightOf n ≤ h ↔ n ≤ 2 ^ h := by
  have hpos : 0 < 2 ^ h := Nat.two_pow_pos h
  unfold heightOf
  split
  · simp only [Nat.zero_le, true_iff]
    omega
  · rw [Bytes.bitLength_le_iff]
    omega

theorem heightOf_half {n : Nat} (hn : 1 < n) :
    heightOf n = heightOf ((n + 1) / 2 : Nat) + 1 := by
  have hstep (h : Nat) : heightOf n ≤ h + 1 ↔ heightOf ((n + 1) / 2 : Nat) ≤ h := by
    rw [heightOf_le_iff, heightOf_le_iff, Nat.pow_succ]
    omega
  have hpos : ¬ heightOf n ≤ 0 := by
    rw [heightOf_le_iff, Nat.pow_zero]
    omega
  apply Nat.le_antisymm
  · exact (hstep _).2 (Nat.le_refl _)
  · have := (hstep (heightOf n - 1)).1 (by omega)
    omega

theorem length_levelsFrom (ds : List Digest) :
    (levelsFrom ds).length = heightOf ds.length + 1 := by
  induction ds using levelsFrom.induct with
  | case1 ds hlength ih =>
    rw [levelsFrom_of_one_lt hlength, List.length_cons, ih, length_nextLevel,
      heightOf_half hlength]
  | case2 ds hlength =>
    rw [levelsFrom_of_le_one (by omega), heightOf, if_pos (by omega)]
    rfl

theorem length_le_of_heightOf_eq {α : Type} {xs : List α} {h : Nat}
    (hh : heightOf xs.length = h) : xs.length ≤ 2 ^ h :=
  (heightOf_le_iff _ _).1 (Nat.le_of_eq hh)

theorem eq_singleton_of_heightOf_eq_zero {ds : List Digest} (hne : ds ≠ [])
    (h : heightOf ds.length = 0) : ∃ d, ds = [d] := by
  have hle := length_le_of_heightOf_eq h
  have hpos := List.length_pos_iff.2 hne
  rw [Nat.pow_zero] at hle
  exact List.length_eq_one_iff.1 (by omega)

theorem one_lt_of_heightOf_eq_succ {ds : List Digest} {h : Nat}
    (hh : heightOf ds.length = h + 1) :
    1 < ds.length ∧ heightOf (nextLevel ds).length = h := by
  have hlt : 1 < ds.length := by
    by_contra hle
    have := (heightOf_le_iff ds.length 0).2 (by simpa using hle)
    omega
  rw [heightOf_half hlt, ← length_nextLevel] at hh
  exact ⟨hlt, Nat.succ.inj hh⟩

namespace Tree

/-- The strings that are hashed twice while the levels of a tree are built. -/
def hashed (t : Tree) : List Bytes :=
  t.levels.dropLast.flatMap pairs

theorem height_eq (t : Tree) : t.height = heightOf t.leafCount := by
  rw [height, t.levels_eq, length_levelsFrom, leafCount, Nat.add_sub_cancel]

theorem length_levels (t : Tree) : t.levels.length = t.height + 1 := by
  rw [height, t.levels_eq, length_levelsFrom, Nat.add_sub_cancel]

theorem root_eq (t : Tree) : t.root = rootFrom t.leaves := by
  rw [root, t.levels_eq, rootFrom]

theorem getElem?_levels_zero (t : Tree) : t.levels[0]? = some t.leaves := by
  rw [t.levels_eq, getElem?_levelsFrom_zero]

section Level

variable {t : Tree} {k : Nat} {level : List Digest} (h : t.levels[k]? = some level)
include h

theorem level_ne_nil : level ≠ [] := by
  rw [t.levels_eq] at h
  exact ne_nil_of_mem_levelsFrom t.leaves_ne_nil (List.mem_of_getElem? h)

theorem rootFrom_level : rootFrom level = t.root := by
  rw [t.levels_eq] at h
  rw [(levelsFrom_level h).2, t.root_eq]

theorem levelsFrom_eq_drop : levelsFrom level = t.levels.drop k := by
  rw [t.levels_eq] at h
  rw [← (levelsFrom_level h).1, t.levels_eq]

theorem dropLast_levelsFrom : (levelsFrom level).dropLast = t.levels.dropLast.drop k := by
  rw [levelsFrom_eq_drop h, List.dropLast_eq_take, List.dropLast_eq_take, List.drop_take,
    List.length_drop, Nat.sub_right_comm]

end Level

/-- The level at the height of the tree is the root alone. -/
theorem getElem?_levels_height (t : Tree) : t.levels[t.height]? = some [t.root] := by
  have hlt : t.height < t.levels.length := by
    rw [t.length_levels]
    omega
  obtain ⟨level, hlevel⟩ : ∃ level, t.levels[t.height]? = some level :=
    ⟨_, List.getElem?_eq_getElem hlt⟩
  have hzero : heightOf level.length = 0 := by
    have hlength := length_levelsFrom level
    rw [levelsFrom_eq_drop hlevel, List.length_drop, t.length_levels] at hlength
    omega
  obtain ⟨d, rfl⟩ := eq_singleton_of_heightOf_eq_zero (level_ne_nil hlevel) hzero
  rw [hlevel, ← rootFrom_level hlevel, rootFrom_singleton]

theorem exists_leaves_eq {leaves : List Digest} (h : leaves ≠ []) :
    ∃ t : Tree, t.leaves = leaves :=
  ⟨⟨leaves, levelsFrom leaves, h, rfl⟩, rfl⟩

/-- Every tree is the one over its leaves. -/
theorem ofLeaves_leaves (t : Tree) : ofLeaves t.leaves = .ok t := by
  cases t with
  | mk leaves levels hne hlevels =>
    subst hlevels
    exact dif_neg hne

theorem leaves_of_ofLeaves {leaves : List Digest} {t : Tree}
    (h : ofLeaves leaves = .ok t) : t.leaves = leaves := by
  unfold ofLeaves at h
  split at h
  · cases h
  · cases h
    rfl

end Tree

end Attest.Merkle
