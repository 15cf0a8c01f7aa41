import Attest.Proofs.Merkle.Climb

/-!
# Accepted proofs follow the tree

A proof that a tree's root accepts runs, over its last steps, along a path of that
tree, whatever its sides claim and however long it is: node and siblings are the
tree's own, or two of the hashed strings collide.  The argument climbs down from the
root.  One level (`apply_eq_node`) compares the join that a step makes with the join
that the tree makes; `follows_of_climb_eq` repeats it for all levels.

Sides alone do not fix the position.  A node without a neighbour is joined with itself,
and a step may then stand on either side of it, so the index is only known to be the
position where it is a position at all.
-/

namespace Attest.Merkle

/-- The climb from `v` along `steps` runs along the tree above `ds` from position `i`. -/
structure Follows (ds : List Digest) (v : Digest) (steps : List Step) (i : Nat) : Prop where
  node : ds[i]? = some v
  hashes : steps.map (·.hash) = (stepsFrom i (levelsFrom ds).dropLast).map (·.hash)
  position : ∀ index, sidesSpell index (steps.map (·.side)) = true →
    index < ds.length → i = index

/-- A step into node `i` of the next level starts at one of that node's children and
takes the other as its sibling, or its string collides with the tree's. -/
theorem apply_eq_node {ds : List Digest} {v : Digest} {s : Step} {i : Nat}
    (h : (nextLevel ds)[i]? = some (s.apply v)) :
    (∃ j, ds[j]? = some v ∧ s.hash = (stepAt ds j).hash ∧ j / 2 = i ∧
      ∀ index, s.side = (if index % 2 = 0 then Side.right else Side.left) →
        index / 2 = i → index < ds.length → j = index) ∨
      Collide doubleSha256 [s.input v] (pairs ds) := by
  rw [getElem?_nextLevel, Option.map_eq_some_iff] at h
  obtain ⟨left, hleft, hjoin⟩ := h
  have hmem := pair_mem_pairs hleft
  obtain ⟨hash, side⟩ := s
  cases side with
  | right =>
    have hjoin' : v.join hash = left.join (ds[2 * i + 1]?.getD left) := hjoin.symm
    rcases Digest.join_eq_join hjoin' (List.mem_singleton_self _) hmem with ⟨rfl, hhash⟩ | hc
    · refine Or.inl ⟨2 * i, hleft, hhash.trans (hash_stepAt_left hleft).symm, by omega, ?_⟩
      intro index hside hindex _
      have heven := (right_eq_side_iff index).1 hside
      omega
    · exact Or.inr hc
  | left =>
    have hjoin' : hash.join v = left.join (ds[2 * i + 1]?.getD left) := hjoin.symm
    rcases Digest.join_eq_join hjoin' (List.mem_singleton_self _) hmem with ⟨hhash, hv⟩ | hc
    · left
      cases hright : ds[2 * i + 1]? with
      | some right =>
        rw [hright, Option.getD_some] at hv
        subst hv
        refine ⟨2 * i + 1, hright, hhash.trans (hash_stepAt_right hleft).symm, by omega, ?_⟩
        intro index hside hindex _
        have hodd := (left_eq_side_iff index).1 hside
        omega
      | none =>
        -- The node has no neighbour: the step stands to the left of its own copy.
        rw [hright, Option.getD_none] at hv
        subst hv
        have hshash := hash_stepAt_left hleft
        rw [hright, Option.getD_none] at hshash
        refine ⟨2 * i, hleft, hhash.trans hshash.symm, by omega, ?_⟩
        intro index hside hindex hlt
        have hodd := (left_eq_side_iff index).1 hside
        rw [List.getElem?_eq_none_iff] at hright
        omega
    · exact Or.inr hc

/-- A climb to the root of the tree above `ds`, of one step a level, follows the tree. -/
theorem follows_of_climb_eq {ds : List Digest} (hds : ds ≠ []) {v : Digest}
    {steps : List Step} (hlength : steps.length + 1 = (levelsFrom ds).length)
    (hclimb : climb v steps = rootFrom ds) :
    (∃ i, Follows ds v steps i) ∨
      Collide doubleSha256 (climbInputs v steps) ((levelsFrom ds).dropLast.flatMap pairs) := by
  induction steps generalizing ds v with
  | nil =>
    have hle : ds.length ≤ 1 := by
      by_contra hgt
      rw [levelsFrom_of_one_lt (by omega), List.length_cons] at hlength
      have := List.length_pos_iff.2 (levelsFrom_ne_nil (nextLevel ds))
      simp only [List.length_nil] at hlength
      omega
    obtain ⟨d, rfl⟩ : ∃ d, ds = [d] := by
      rw [← List.length_eq_one_iff]
      have := List.length_pos_iff.2 hds
      omega
    have hv : v = d := hclimb.trans (rootFrom_singleton d)
    refine Or.inl ⟨0, by simp [hv], by simp [levelsFrom_of_le_one, stepsFrom], ?_⟩
    intro index _ hindex
    simp only [List.length_singleton] at hindex
    omega
  | cons s rest ih =>
    have hgt : 1 < ds.length := by
      by_contra hle
      rw [levelsFrom_of_le_one (by omega)] at hlength
      simp at hlength
    have hdrop := dropLast_levelsFrom_of_one_lt hgt
    have hlength' : rest.length + 1 = (levelsFrom (nextLevel ds)).length := by
      rw [levelsFrom_of_one_lt hgt] at hlength
      simpa using hlength
    have hclimb' : climb (s.apply v) rest = rootFrom (nextLevel ds) :=
      hclimb.trans (rootFrom_nextLevel hgt).symm
    rw [hdrop, List.flatMap_cons, climbInputs]
    rcases ih (nextLevel_ne_nil hds) hlength' hclimb' with ⟨i, hi⟩ | hc
    · rcases apply_eq_node hi.node with ⟨j, hnode, hhash, hj, hposition⟩ | hc
      · refine Or.inl ⟨j, hnode, ?_, ?_⟩
        · rw [hdrop, stepsFrom, List.map_cons, List.map_cons, hhash, hj, hi.hashes]
        · intro index hspell hlt
          rw [List.map_cons, sidesSpell_cons] at hspell
          refine hposition index hspell.1 (hi.position _ hspell.2 ?_).symm hlt
          rw [length_nextLevel]
          omega
      · exact Or.inr (hc.mono (by simp) (List.subset_append_left _ _))
    · exact Or.inr (hc.mono (List.subset_cons_self _ _) (List.subset_append_right _ _))

/-- The hash that the climb of a proof has reached before its last `d` steps. -/
def Proof.before (p : Proof) (d : Nat) : Digest :=
  climb p.leaf (p.steps.take (p.height - d))

theorem Proof.climb_before (p : Proof) (d : Nat) :
    climb (p.before d) (p.steps.drop (p.height - d)) = climb p.leaf p.steps := by
  rw [before, ← climb_append, List.take_append_drop]

theorem Proof.before_height {p : Proof} {d : Nat} (h : p.height ≤ d) : p.before d = p.leaf := by
  rw [before, Nat.sub_eq_zero_of_le h]
  rfl

theorem Proof.inputs_before_subset (p : Proof) (d : Nat) :
    climbInputs (p.before d) (p.steps.drop (p.height - d)) ⊆ p.hashed := by
  rw [hashed]
  conv_rhs => rw [← List.take_append_drop (p.height - d) p.steps, climbInputs_append]
  exact List.subset_append_right _ _

/-- The last `d` steps of an accepted proof follow the tree from `d` levels below its
root, for every `d` for which there are so many steps and levels. -/
theorem follows_of_verify {t : Tree} {p : Proof} (hp : p.verify t.root = true) {d : Nat}
    (hsteps : d ≤ p.height) (hlevels : d ≤ t.height) :
    ∃ level, t.levels[t.height - d]? = some level ∧
      ((∃ i, Follows level (p.before d) (p.steps.drop (p.height - d)) i) ∨
        Collide doubleSha256 p.hashed t.hashed) := by
  have hk : t.height - d < t.levels.length := by
    rw [t.length_levels]
    omega
  obtain ⟨level, hlevel⟩ : ∃ level, t.levels[t.height - d]? = some level :=
    ⟨_, List.getElem?_eq_getElem hk⟩
  refine ⟨level, hlevel, ?_⟩
  have hlength : (p.steps.drop (p.height - d)).length + 1 = (levelsFrom level).length := by
    rw [Tree.levelsFrom_eq_drop hlevel, List.length_drop, List.length_drop, t.length_levels]
    unfold Proof.height at *
    omega
  have hclimb : climb (p.before d) (p.steps.drop (p.height - d)) = rootFrom level := by
    rw [p.climb_before, ((p.verify_iff _).1 hp).2, Tree.rootFrom_level hlevel]
  rcases follows_of_climb_eq (Tree.level_ne_nil hlevel) hlength hclimb with hi | hc
  · exact Or.inl hi
  · refine Or.inr (hc.mono (p.inputs_before_subset d) ?_)
    rw [Tree.dropLast_levelsFrom hlevel]
    intro b hb
    obtain ⟨l, hl, hbl⟩ := List.mem_flatMap.1 hb
    exact List.mem_flatMap.2 ⟨l, List.mem_of_mem_drop hl, hbl⟩

/-- **Soundness.**  Let `d` be the number of steps of an accepted proof, or the height of
the tree if that is less.  The hash before the last `d` steps stands at a position `i` of
the level `d` below the root, the siblings of those steps are the ones that the walk up
from `i` picks, and `i` is the index with its low bits shifted out, where that is a
position.  Otherwise a string hashed for the proof collides with one hashed for the tree. -/
theorem exists_position_of_verify (t : Tree) (p : Proof) (hp : p.verify t.root = true) :
    let d := min p.height t.height
    (∃ level i, t.levels[t.height - d]? = some level ∧ level[i]? = some (p.before d) ∧
      (p.steps.drop (p.height - d)).map (·.hash) =
        (stepsFrom i (t.levels.dropLast.drop (t.height - d))).map (·.hash) ∧
      (p.index >>> (p.height - d) < level.length → i = p.index >>> (p.height - d)) ∧
      (p.height ≤ t.height → p.before d = p.leaf) ∧
      (p.height = t.height → p.leaf ∈ t.leaves)) ∨
    Collide doubleSha256 p.hashed t.hashed := by
  intro d
  obtain ⟨level, hlevel, ⟨i, hi⟩ | hc⟩ :=
    follows_of_verify hp (Nat.min_le_left p.height t.height) (Nat.min_le_right _ _)
  · refine Or.inl ⟨level, i, hlevel, hi.node, ?_, ?_, ?_, ?_⟩
    · rw [hi.hashes, Tree.dropLast_levelsFrom hlevel]
    · intro hlt
      refine hi.position _ ?_ hlt
      rw [List.map_drop]
      exact sidesSpell_drop ((p.verify_iff _).1 hp).1 _
    · intro hle
      exact Proof.before_height (by omega)
    · intro heq
      -- With as many steps as levels the position is one of level zero.
      have hzero : t.height - d = 0 := by omega
      rw [hzero, t.getElem?_levels_zero, Option.some.injEq] at hlevel
      have hnode := hi.node
      rw [Proof.before_height (by omega), ← hlevel] at hnode
      exact List.mem_of_getElem? hnode
  · exact Or.inr hc

/-- The last of three leaves with its own copy on the left, as if it stood at index 3. -/
def besideItself : Proof where
  leaf := .ofNat 3
  index := 3
  steps := [⟨.ofNat 3, .left⟩, ⟨(Digest.ofNat 1).join (.ofNat 2), .left⟩]
  root := .zero

theorem verify_besideItself {t : Tree} (ht : t.leaves = [.ofNat 1, .ofNat 2, .ofNat 3]) :
    besideItself.verify t.root = true := by
  rw [Proof.verify_iff]
  constructor
  · decide
  · have h₀ : rootFrom (nextLevel t.leaves) = rootFrom t.leaves := by
      apply rootFrom_nextLevel
      rw [ht]
      decide
    have h₁ : rootFrom (nextLevel (nextLevel t.leaves)) = rootFrom (nextLevel t.leaves) := by
      apply rootFrom_nextLevel
      rw [length_nextLevel, ht]
      decide
    rw [t.root_eq, ← h₀, ← h₁, ht]
    exact (rootFrom_singleton _).symm

theorem exists_position_of_verify_besideItself :
    ∃ t : Tree, t.leaves = [.ofNat 1, .ofNat 2, .ofNat 3] ∧
      besideItself.verify t.root = true ∧
      ((∃ i, t.leaves[i]? = some besideItself.leaf ∧
        besideItself.steps.map (·.hash) = (stepsFrom i t.levels.dropLast).map (·.hash)) ∨
      Collide doubleSha256 besideItself.hashed t.hashed) := by
  obtain ⟨t, ht⟩ := Tree.exists_leaves_eq
    (List.cons_ne_nil (Digest.ofNat 1) [.ofNat 2, .ofNat 3])
  refine ⟨t, ht, verify_besideItself ht, ?_⟩
  have hheight : t.height = 2 := by
    rw [t.height_eq, Tree.leafCount, ht]
    decide
  have hlevels : min besideItself.height t.height = 2 := by
    rw [hheight]
    rfl
  rcases exists_position_of_verify t besideItself (verify_besideItself ht) with
    ⟨level, i, hlevel, hnode, hhashes, -⟩ | hc
  · rw [hlevels, hheight] at hlevel hhashes
    rw [hlevels] at hnode
    rw [t.getElem?_levels_zero, Option.some.injEq] at hlevel
    subst hlevel
    exact Or.inl ⟨i, hnode, hhashes⟩
  · exact Or.inr hc

end Attest.Merkle
