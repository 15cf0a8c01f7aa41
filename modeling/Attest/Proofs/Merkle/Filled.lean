import Attest.Proofs.Merkle.Commitment
import Attest.Proofs.Merkle.Completeness
import Attest.Proofs.Merkle.Soundness
import Attest.Proofs.Merkle.Uniqueness

/-!
# Indices beyond the leaves

A root does not say how many leaves are under it.  The tree over the filled leaves has the
same root and the same height, hashes the same strings and has a leaf for each of the
`2 ^ height` indices that fit a proof.  Its proofs are therefore accepted, and up to a
collision no others are (`index_of_verify`): an index beyond the leaves is kept out just
when there is none, the leaves being as many as a power of two.
-/

namespace Attest.Merkle

theorem heightOf_two_pow (h : Nat) : heightOf (2 ^ h : Nat) = h := by
  apply Nat.le_antisymm
  · exact (heightOf_le_iff _ _).2 (Nat.le_refl _)
  · have hpow := (heightOf_le_iff (2 ^ h) _).1 (Nat.le_refl _)
    exact (Nat.pow_le_pow_iff_right (by omega)).1 hpow

theorem flatMap_pairs_expand_subset {h : Nat} {ds : List Digest} (hne : ds ≠ [])
    (hh : heightOf ds.length = h) :
    (levelsFrom (expand h ds)).dropLast.flatMap pairs ⊆
      (levelsFrom ds).dropLast.flatMap pairs := by
  induction h generalizing ds with
  | zero => exact List.Subset.refl _
  | succ h ih =>
    obtain ⟨hlt, hnext⟩ := one_lt_of_heightOf_eq_succ hh
    have hle := length_le_of_heightOf_eq hh
    have hfilled : 1 < (expand (h + 1) ds).length := by
      rw [length_expand hne hle]
      exact Nat.one_lt_two_pow (by omega)
    -- Filling a level and going up is going up and filling, and pairs of filled entries are
    -- pairs of entries.
    rw [dropLast_levelsFrom_of_one_lt hfilled, dropLast_levelsFrom_of_one_lt hlt,
      List.flatMap_cons, List.flatMap_cons, pairs_expand hne hle, nextLevel_expand hne hle]
    refine List.append_subset.2 ⟨?_, ?_⟩
    · exact List.Subset.trans (expand_subset _ _) (List.subset_append_left _ _)
    · exact List.Subset.trans (ih (nextLevel_ne_nil hne) hnext) (List.subset_append_right _ _)

namespace Tree

theorem length_leaves_le (t : Tree) : t.leaves.length ≤ 2 ^ t.height :=
  length_le_of_heightOf_eq t.height_eq.symm

theorem length_expand_leaves (t : Tree) :
    (expand t.height t.leaves).length = 2 ^ t.height :=
  length_expand t.leaves_ne_nil t.length_leaves_le

/-- The tree over the filled leaves of a tree. -/
def filled (t : Tree) : Tree where
  leaves := expand t.height t.leaves
  levels := levelsFrom (expand t.height t.leaves)
  leaves_ne_nil := by
    rw [← List.length_pos_iff, length_expand_leaves]
    exact Nat.two_pow_pos _
  levels_eq := rfl

theorem leafCount_filled (t : Tree) : t.filled.leafCount = 2 ^ t.height :=
  t.length_expand_leaves

theorem height_filled (t : Tree) : t.filled.height = t.height := by
  rw [height_eq, leafCount_filled, heightOf_two_pow]

theorem root_filled (t : Tree) : t.filled.root = t.root := by
  rw [root_eq, root_eq]
  apply rootFrom_eq_of_expand_eq t.filled.leaves_ne_nil t.leaves_ne_nil (h := t.height)
  · exact t.filled.height_eq.symm.trans t.height_filled
  · exact t.height_eq.symm
  · exact expand_of_length_eq t.length_expand_leaves

theorem hashed_filled_subset (t : Tree) : t.filled.hashed ⊆ t.hashed := by
  rw [hashed, hashed, t.filled.levels_eq, t.levels_eq]
  exact flatMap_pairs_expand_subset t.leaves_ne_nil t.height_eq.symm

theorem proves_filled (t : Tree) {i : Nat} (h : i < 2 ^ t.height) :
    (t.filled.proofAt i).height = t.height ∧ (t.filled.proofAt i).verify t.root = true := by
  rw [← leafCount_filled] at h
  have hproves := t.filled.proves_proofAt h
  exact ⟨hproves.height.trans t.height_filled, t.root_filled ▸ hproves.verified⟩

end Tree

/-- An accepted proof as high as the tree is the proof of the filled tree at its index, or
two strings collide. -/
theorem eq_proofAt_filled {t : Tree} {p : Proof} (hheight : p.height = t.height)
    (hp : p.verify t.root = true) :
    (p.leaf = (t.filled.proofAt p.index).leaf ∧ p.steps = (t.filled.proofAt p.index).steps) ∨
      Collide doubleSha256 p.hashed t.hashed := by
  have hfits : p.index < 2 ^ t.height := hheight ▸ (Proof.spelled_of_verify hp).fits
  obtain ⟨hheight', hp'⟩ := t.proves_filled hfits
  rcases Proof.eq_or_collideAt (hheight.trans hheight'.symm) hp hp' rfl with heq | hc
  · exact Or.inl heq
  · refine Or.inr (hc.collide.mono (List.Subset.refl _) ?_)
    refine List.Subset.trans (t.filled.hashed_proofAt_subset ?_) t.hashed_filled_subset
    rwa [t.leafCount_filled]

/-- **Indices.**  The index of an accepted proof as high as the tree fits the height, and
the proof is that of the filled tree, or a string hashed for it collides with one hashed
for the tree.  Each index that fits has such a proof, so accepted indices are those of
leaves just when the leaves are `2 ^ height` many. -/
theorem index_of_verify (t : Tree) :
    (∀ p : Proof, p.height = t.height → p.verify t.root = true →
      p.index < 2 ^ t.height ∧
      (((expand t.height t.leaves)[p.index]? = some p.leaf ∧
          p.steps = stepsFrom p.index (levelsFrom (expand t.height t.leaves)).dropLast) ∨
        Collide doubleSha256 p.hashed t.hashed)) ∧
    (∀ i, i < 2 ^ t.height →
      ∃ p : Proof, p.height = t.height ∧ p.index = i ∧ p.verify t.root = true) ∧
    ((∀ p : Proof, p.height = t.height → p.verify t.root = true → p.index < t.leafCount) ↔
      t.leafCount = 2 ^ t.height) := by
  have hfits (p : Proof) (hheight : p.height = t.height) (hp : p.verify t.root = true) :
      p.index < 2 ^ t.height :=
    hheight ▸ (Proof.spelled_of_verify hp).fits
  refine ⟨fun p hheight hp => ⟨hfits p hheight hp, ?_⟩, fun i hi => ?_, ?_, ?_⟩
  · rcases eq_proofAt_filled hheight hp with ⟨hleaf, hsteps⟩ | hc
    · have hlt : p.index < t.filled.leafCount := t.leafCount_filled ▸ hfits p hheight hp
      refine Or.inl ⟨?_, hsteps⟩
      rw [hleaf]
      exact t.filled.leaf_proofAt hlt
    · exact Or.inr hc
  · obtain ⟨hheight, hp⟩ := t.proves_filled hi
    exact ⟨t.filled.proofAt i, hheight, rfl, hp⟩
  · intro hall
    by_contra hne
    have hlt : t.leafCount < 2 ^ t.height := Nat.lt_of_le_of_ne t.length_leaves_le hne
    obtain ⟨hheight, hp⟩ := t.proves_filled hlt
    exact Nat.lt_irrefl _ (hall _ hheight hp)
  · intro heq p hheight hp
    rw [heq]
    exact hfits p hheight hp

/-! ## Three leaves

The last of three leaves is joined with itself, so the tree over them has the root of the
tree over four of which the last two are the same, and index 3 is taken for that of a leaf.
-/

/-- The strings that are hashed over the leaves 1, 2 and 3. -/
def threeStrings : List Bytes :=
  [Digest.pair (.ofNat 1) (.ofNat 2), Digest.pair (.ofNat 3) (.ofNat 3),
    Digest.pair ((Digest.ofNat 1).join (.ofNat 2)) ((Digest.ofNat 3).join (.ofNat 3))]

/-- The node over the first two of three leaves. -/
def lowerNode : Digest :=
  .ofNat 0x9b1eb2a9e9a81cbbad8edffa901e93fd94f4405e63b61647cf9d3e602b1fb7b0

/-- The node over the last of three leaves. -/
def loneNode : Digest :=
  .ofNat 0x02e5fd62a41076dca2a4b074080bfcf043b36f358108bfb9b31328d16eaf30bd

/-- The root over three leaves. -/
def threeRoot : Digest :=
  .ofNat 0x0de7d95afed92f912d7004de0371e290261027e3ec5ef7846a535881454e5c36

theorem join_one_two : (Digest.ofNat 1).join (.ofNat 2) = lowerNode := by
  decide +kernel

theorem join_three_three : (Digest.ofNat 3).join (.ofNat 3) = loneNode := by
  decide +kernel

theorem join_lowerNode_loneNode : lowerNode.join loneNode = threeRoot := by
  decide +kernel

theorem map_threeStrings :
    threeStrings.map doubleSha256 = [lowerNode, loneNode, threeRoot] := by
  rw [← join_lowerNode_loneNode, ← join_three_three, ← join_one_two]
  rfl

theorem not_collide_threeStrings : ¬ Collide doubleSha256 threeStrings threeStrings := by
  apply not_collide_of_nodup
  rw [map_threeStrings]
  decide

section Three

variable {t : Tree} (ht : t.leaves = [.ofNat 1, .ofNat 2, .ofNat 3])
include ht

theorem height_three : t.height = 2 := by
  rw [t.height_eq, Tree.leafCount, ht]
  decide

theorem hashed_three : t.hashed = threeStrings := by
  rw [Tree.hashed, t.levels_eq, ht, dropLast_levelsFrom_of_one_lt (by decide),
    dropLast_levelsFrom_of_one_lt (by simp [nextLevel]),
    dropLast_levelsFrom_of_le_one (by simp [nextLevel])]
  rfl

theorem not_collide_besideItself : ¬ Collide doubleSha256 besideItself.hashed t.hashed := by
  have hsub : besideItself.hashed ⊆ threeStrings := List.subset_cons_self _ _
  rw [hashed_three ht]
  intro hc
  exact not_collide_threeStrings (hc.mono hsub (List.Subset.refl _))

end Three

/-- A proof as high as the tree may be accepted at an index that is none of a leaf's, and no
two strings collide: the step to the copy of the last leaf is taken on its other side. -/
theorem verify_beyond_leaves :
    ∃ t : Tree, t.leaves = [.ofNat 1, .ofNat 2, .ofNat 3] ∧
      besideItself.height = t.height ∧ besideItself.verify t.root = true ∧
      ¬ besideItself.index < t.leafCount ∧
      ¬ Collide doubleSha256 besideItself.hashed t.hashed := by
  obtain ⟨t, ht⟩ := Tree.exists_leaves_eq
    (List.cons_ne_nil (Digest.ofNat 1) [.ofNat 2, .ofNat 3])
  refine ⟨t, ht, ?_, verify_besideItself ht, ?_, not_collide_besideItself ht⟩
  · rw [height_three ht]
    rfl
  · rw [Tree.leafCount, ht]
    decide

/-- The accepted proof with index 3 is the one of the filled tree there. -/
theorem index_of_verify_besideItself :
    ∃ t : Tree, t.leaves = [.ofNat 1, .ofNat 2, .ofNat 3] ∧
      besideItself.height = t.height ∧ besideItself.verify t.root = true ∧
      besideItself.index < 2 ^ t.height ∧
      (expand t.height t.leaves)[3]? = some besideItself.leaf := by
  obtain ⟨t, ht⟩ := Tree.exists_leaves_eq
    (List.cons_ne_nil (Digest.ofNat 1) [.ofNat 2, .ofNat 3])
  have hheight : besideItself.height = t.height := by
    rw [height_three ht]
    rfl
  have hverify := verify_besideItself ht
  obtain ⟨hfits, ⟨hleaf, -⟩ | hc⟩ := (index_of_verify t).1 besideItself hheight hverify
  · exact ⟨t, ht, hheight, hverify, hfits, hleaf⟩
  · exact absurd hc (not_collide_besideItself ht)

end Attest.Merkle
