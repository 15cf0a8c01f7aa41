import Attest.Proofs.Merkle.Soundness

/-!
# Items and inner digests

A leaf is the SHA-256 of its item, and a node is the SHA-256 of an inner digest of 32
bytes.  Nothing tells the two apart, and a root does not say how high its tree is.  So a
proof about an item shows one of three things, by its number of steps:

* as many as the tree is high: the item is one of the tree's items;
* fewer: the item may be the inner digest of one of the tree's nodes;
* more: one of the tree's items may be an inner digest hashed for the proof.

`verifyItem_cases` says that there is no fourth case but a collision of SHA-256, and
`verifyItem_of_innerDigest` that the last two do occur without one.
-/

namespace Attest.Merkle

/-- The strings given to SHA-256 while the tree `t` over `items` is built and while a
proof `p` about `item` is checked. -/
def itemInputs (items : List Bytes) (t : Tree) (item : Bytes) (p : Proof) : List Bytes :=
  items ++ innerInputs t.hashed ++ (item :: innerInputs p.hashed)

section Inputs

variable {items : List Bytes} {t : Tree} {item : Bytes} {p : Proof}

theorem items_subset_itemInputs : items ⊆ itemInputs items t item p := by
  intro b hb
  simp [itemInputs, hb]

theorem self_mem_itemInputs : item ∈ itemInputs items t item p := by
  simp [itemInputs]

theorem tree_subset_itemInputs : innerInputs t.hashed ⊆ itemInputs items t item p := by
  intro b hb
  simp [itemInputs, hb]

theorem proof_subset_itemInputs : innerInputs p.hashed ⊆ itemInputs items t item p := by
  intro b hb
  simp [itemInputs, hb]

end Inputs

theorem Proof.verifyItem_iff (p : Proof) (item : Bytes) (root : Digest) :
    p.verifyItem item root = true ↔ sha256 item = p.leaf ∧ p.verify root = true := by
  simp [verifyItem]

theorem Tree.leaves_of_ofItems {items : List Bytes} {t : Tree}
    (h : ofItems items = .ok t) : t.leaves = items.map sha256 :=
  leaves_of_ofLeaves h

theorem Tree.ofItems_of_ne_nil {items : List Bytes} (h : items ≠ []) :
    ∃ t, ofItems items = .ok t := by
  have hleaves : items.map sha256 ≠ [] := by simpa using h
  obtain ⟨t, ht⟩ := exists_leaves_eq hleaves
  exact ⟨t, by rw [ofItems, ← ht, t.ofLeaves_leaves]⟩

/-- A node above the leaves is the double hash of a string of the level below it. -/
theorem Tree.node_eq_doubleSha256 {t : Tree} {k i : Nat} {level : List Digest} {d : Digest}
    (hlevel : t.levels[k + 1]? = some level) (hnode : level[i]? = some d) :
    ∃ below, t.levels[k]? = some below ∧ ∃ s ∈ pairs below, d = doubleSha256 s := by
  rw [t.levels_eq] at hlevel ⊢
  obtain ⟨below, hbelow, rfl⟩ := levelsFrom_succ hlevel
  rw [nextLevel_eq_map, List.getElem?_map, Option.map_eq_some_iff] at hnode
  obtain ⟨s, hs, rfl⟩ := hnode
  exact ⟨below, hbelow, s, List.mem_of_getElem? hs, rfl⟩

theorem Tree.pairs_subset_hashed {t : Tree} {k : Nat} {level : List Digest}
    (hlevel : t.levels[k]? = some level) (hk : k < t.height) : pairs level ⊆ t.hashed := by
  intro b hb
  have hmem : level ∈ t.levels.dropLast := by
    apply List.mem_of_getElem? (i := k)
    rw [List.getElem?_dropLast, ← Tree.height, if_pos hk, hlevel]
  exact List.mem_flatMap.2 ⟨level, hmem, hb⟩

/-- A string with the hash of an item is that item. -/
theorem mem_items_or_collide {items ss : List Bytes} {b : Bytes} {i : Nat}
    (hleaf : (items.map sha256)[i]? = some (sha256 b)) (hitems : items ⊆ ss) (hb : b ∈ ss) :
    b ∈ items ∨ Collide sha256 ss ss := by
  rw [List.getElem?_map, Option.map_eq_some_iff] at hleaf
  obtain ⟨found, hfound, hhash⟩ := hleaf
  have hmem := List.mem_of_getElem? hfound
  rcases Collide.eq_or hhash (hitems hmem) hb with rfl | hc
  · exact Or.inl hmem
  · exact Or.inr hc

/-- What an accepted proof about an item shows.  If the item is none of the tree's items,
then either the proof has too few steps and the item is the inner digest of a node at the
level where it starts, or the proof has too many and one of the tree's items is the inner
digest of the last of the surplus steps, or two different strings given to SHA-256 on the
way have the same hash. -/
theorem verifyItem_cases {items : List Bytes} {t : Tree} (ht : Tree.ofItems items = .ok t)
    {item : Bytes} {p : Proof} (hp : p.verifyItem item t.root = true) :
    item ∈ items ∨
      (p.height < t.height ∧ ∃ level, t.levels[t.height - p.height - 1]? = some level ∧
        ∃ s ∈ pairs level, item = (sha256 s).bytes) ∨
      (t.height < p.height ∧ ∃ s, p.hashed[p.height - t.height - 1]? = some s ∧
        (sha256 s).bytes ∈ items) ∨
      Collide sha256 (itemInputs items t item p) (itemInputs items t item p) := by
  obtain ⟨hleaf, hverify⟩ := (p.verifyItem_iff item t.root).1 hp
  obtain ⟨level, hlevel, ⟨i, hi⟩ | hc⟩ :=
    follows_of_verify hverify (Nat.min_le_left p.height t.height) (Nat.min_le_right _ _)
  · have hnode := hi.node
    rcases Nat.lt_or_ge p.height t.height with hfew | hmany
    · -- The proof starts at a node above the leaves.
      obtain ⟨k, hk⟩ : ∃ k, t.height - p.height = k + 1 := ⟨t.height - p.height - 1, by omega⟩
      rw [Nat.min_eq_left (Nat.le_of_lt hfew)] at hlevel hnode
      rw [Proof.before_height (Nat.le_refl _), ← hleaf] at hnode
      rw [hk] at hlevel ⊢
      obtain ⟨below, hbelow, s, hs, hitem⟩ := Tree.node_eq_doubleSha256 hlevel hnode
      have hmem : (sha256 s).bytes ∈ itemInputs items t item p := by
        apply tree_subset_itemInputs
        exact mem_innerInputs.2 ⟨s, Tree.pairs_subset_hashed hbelow (by omega) hs, Or.inr rfl⟩
      rcases Collide.eq_or hitem self_mem_itemInputs hmem with heq | hc
      · exact Or.inr (Or.inl ⟨hfew, below, hbelow, s, hs, heq⟩)
      · exact Or.inr (Or.inr (Or.inr hc))
    · -- The last steps, as many as the tree is high, start at a leaf.
      rw [Nat.min_eq_right hmany] at hlevel hnode
      rw [Nat.sub_self, t.getElem?_levels_zero, Option.some.injEq] at hlevel
      rw [← hlevel, Tree.leaves_of_ofItems ht] at hnode
      rcases Nat.eq_or_lt_of_le hmany with hsame | hmore
      · rw [Proof.before_height (Nat.le_of_eq hsame.symm), ← hleaf] at hnode
        rcases mem_items_or_collide hnode items_subset_itemInputs self_mem_itemInputs with
          hitem | hc
        · exact Or.inl hitem
        · exact Or.inr (Or.inr (Or.inr hc))
      · obtain ⟨k, hk⟩ : ∃ k, p.height - t.height = k + 1 :=
          ⟨p.height - t.height - 1, by omega⟩
        obtain ⟨s, hs, hclimb⟩ : ∃ s, p.hashed[k]? = some s ∧
            climb p.leaf (p.steps.take (k + 1)) = doubleSha256 s := by
          apply climb_take_succ
          unfold Proof.height at hk
          omega
        rw [Proof.before, hk, hclimb] at hnode
        have hmem : (sha256 s).bytes ∈ itemInputs items t item p := by
          apply proof_subset_itemInputs
          exact mem_innerInputs.2 ⟨s, List.mem_of_getElem? hs, Or.inr rfl⟩
        rw [hk]
        rcases mem_items_or_collide hnode items_subset_itemInputs hmem with hfound | hc
        · exact Or.inr (Or.inr (Or.inl ⟨hmore, s, hs, hfound⟩))
        · exact Or.inr (Or.inr (Or.inr hc))
  · refine Or.inr (Or.inr (Or.inr ?_))
    exact hc.of_doubleSha256.mono proof_subset_itemInputs tree_subset_itemInputs

/-! ## An item that is an inner digest

Two items `a` and `b`, the string that their leaves are joined as, and its inner digest.
The digest taken for an item is under the root over `a` and `b`; taken for the only item
of a tree, it puts `a` under that tree's root.
-/

/-- The string that the leaves of `a` and `b` are joined as. -/
def leafPair : Bytes :=
  Digest.pair (sha256 [0x61]) (sha256 [0x62])

/-- The inner digest of the node over `a` and `b`. -/
def innerItem : Bytes :=
  (sha256 leafPair).bytes

/-- The proof without steps for the inner digest. -/
def bareProof : Proof where
  leaf := sha256 innerItem
  index := 0
  steps := []
  root := sha256 innerItem

/-- The proof for `a` whose one step joins the leaf of `b`. -/
def surplusProof : Proof where
  leaf := sha256 [0x61]
  index := 0
  steps := [⟨sha256 [0x62], .right⟩]
  root := sha256 innerItem

theorem join_leafPair : (sha256 [0x61]).join (sha256 [0x62]) = sha256 innerItem := rfl

theorem not_collide_innerItem :
    ¬ Collide sha256 [[0x61], [0x62], leafPair, innerItem]
      [[0x61], [0x62], leafPair, innerItem] := by
  decide +kernel

theorem innerItem_ne_singleton (b : UInt8) : innerItem ≠ [b] := by
  intro h
  have hlength := (sha256 leafPair).length_bytes
  rw [innerItem] at h
  rw [h] at hlength
  simp at hlength

section Two

variable {t : Tree} (ht : Tree.ofItems [[0x61], [0x62]] = .ok t)
include ht

theorem root_two : t.root = sha256 innerItem := by
  rw [t.root_eq, Tree.leaves_of_ofItems ht, ← rootFrom_nextLevel (by simp), ← join_leafPair]
  exact rootFrom_singleton _

theorem height_two : t.height = 1 := by
  rw [t.height_eq, Tree.leafCount, Tree.leaves_of_ofItems ht, List.length_map]
  decide

theorem hashed_two : t.hashed = [leafPair] := by
  rw [Tree.hashed, t.levels_eq, Tree.leaves_of_ofItems ht,
    dropLast_levelsFrom_of_one_lt (by simp), dropLast_levelsFrom_of_le_one (by simp [nextLevel])]
  rfl

theorem verifyItem_bareProof : bareProof.verifyItem innerItem t.root = true := by
  rw [Proof.verifyItem_iff, Proof.verify_iff, root_two ht]
  exact ⟨rfl, rfl, rfl⟩

theorem not_collide_two :
    ¬ Collide sha256 (itemInputs [[0x61], [0x62]] t innerItem bareProof)
      (itemInputs [[0x61], [0x62]] t innerItem bareProof) := by
  have hsub : itemInputs [[0x61], [0x62]] t innerItem bareProof ⊆
      [[0x61], [0x62], leafPair, innerItem] := by
    intro b hb
    rw [itemInputs, hashed_two ht] at hb
    simpa [innerInputs, bareProof, Proof.hashed, climbInputs, innerItem] using hb
  exact fun hc => not_collide_innerItem (hc.mono hsub hsub)

end Two

section One

variable {t : Tree} (ht : Tree.ofItems [innerItem] = .ok t)
include ht

theorem verifyItem_surplusProof : surplusProof.verifyItem [0x61] t.root = true := by
  have hroot : t.root = sha256 innerItem := by
    rw [t.root_eq, Tree.leaves_of_ofItems ht]
    exact rootFrom_singleton _
  rw [Proof.verifyItem_iff, Proof.verify_iff, hroot]
  exact ⟨rfl, rfl, join_leafPair⟩

theorem not_collide_one :
    ¬ Collide sha256 (itemInputs [innerItem] t [0x61] surplusProof)
      (itemInputs [innerItem] t [0x61] surplusProof) := by
  have hhashed : t.hashed = [] := by
    rw [Tree.hashed, t.levels_eq, Tree.leaves_of_ofItems ht,
      dropLast_levelsFrom_of_le_one (by simp)]
    rfl
  have hpair : surplusProof.hashed = [leafPair] := rfl
  have hsub : itemInputs [innerItem] t [0x61] surplusProof ⊆
      [[0x61], [0x62], leafPair, innerItem] := by
    intro b hb
    rw [itemInputs, hhashed, hpair] at hb
    simp only [innerInputs, List.flatMap_nil, List.flatMap_cons, List.append_nil,
      List.mem_append, List.mem_cons, List.not_mem_nil, or_false] at hb
    rcases hb with rfl | rfl | rfl | rfl <;> simp [innerItem]
  exact fun hc => not_collide_innerItem (hc.mono hsub hsub)

end One

/-- A proof about an item may hold although the item is none of the tree's and no two
strings collide: with a step too few for the inner digest of a node, and with a step too
many for an item below one. -/
theorem verifyItem_of_innerDigest :
    (∃ t, Tree.ofItems [[0x61], [0x62]] = .ok t ∧
      bareProof.verifyItem innerItem t.root = true ∧ innerItem ∉ [[0x61], [0x62]] ∧
      ¬ Collide sha256 (itemInputs [[0x61], [0x62]] t innerItem bareProof)
        (itemInputs [[0x61], [0x62]] t innerItem bareProof)) ∧
    ∃ t, Tree.ofItems [innerItem] = .ok t ∧
      surplusProof.verifyItem [0x61] t.root = true ∧ [0x61] ∉ [innerItem] ∧
      ¬ Collide sha256 (itemInputs [innerItem] t [0x61] surplusProof)
        (itemInputs [innerItem] t [0x61] surplusProof) := by
  constructor
  · obtain ⟨t, ht⟩ := Tree.ofItems_of_ne_nil (List.cons_ne_nil [0x61] [[0x62]])
    refine ⟨t, ht, verifyItem_bareProof ht, ?_, not_collide_two ht⟩
    simp [innerItem_ne_singleton]
  · obtain ⟨t, ht⟩ := Tree.ofItems_of_ne_nil (List.cons_ne_nil innerItem [])
    refine ⟨t, ht, verifyItem_surplusProof ht, ?_, not_collide_one ht⟩
    rw [List.mem_singleton]
    exact (innerItem_ne_singleton _).symm

/-- Of the cases for the proof without steps, the one of too few steps remains. -/
theorem verifyItem_cases_bareProof :
    ∃ t, Tree.ofItems [[0x61], [0x62]] = .ok t ∧
      bareProof.verifyItem innerItem t.root = true ∧ bareProof.height < t.height ∧
      ∃ level, t.levels[0]? = some level ∧ ∃ s ∈ pairs level, innerItem = (sha256 s).bytes := by
  obtain ⟨t, ht⟩ := Tree.ofItems_of_ne_nil (List.cons_ne_nil [0x61] [[0x62]])
  have hverify := verifyItem_bareProof ht
  refine ⟨t, ht, hverify, ?_⟩
  rcases verifyItem_cases ht hverify with hmem | ⟨hfew, hinner⟩ | ⟨hmany, -⟩ | hc
  · simp [innerItem_ne_singleton] at hmem
  · rw [height_two ht] at hinner
    exact ⟨hfew, hinner⟩
  · rw [height_two ht] at hmany
    exact absurd hmany (by decide)
  · exact absurd hc (not_collide_two ht)

end Attest.Merkle
