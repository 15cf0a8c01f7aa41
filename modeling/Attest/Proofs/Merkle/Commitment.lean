import Attest.Proofs.Merkle.Levels

/-!
# What a root commits to

A level of odd length is joined as if its last node stood there twice, so lists of
different lengths can have one root.  `expand` writes those repetitions out: at height
`h` it fills a list up to `2 ^ h` entries by repeating halves.  Filling up goes well with
every step of the construction (`pairs_expand`), which makes the root a function of the
filled list, and one that only a collision keeps from being injective
(`root_eq_iff_expand`).
-/

namespace Attest.Merkle

/-! ## Filling up -/

section Expand

variable {α β : Type}

/-- The second half of `2 ^ (h + 1)` entries: what is beyond the first half, or the first
half again where nothing is. -/
def secondHalf (h : Nat) (xs : List α) : List α :=
  if xs.drop (2 ^ h) = [] then xs.take (2 ^ h) else xs.drop (2 ^ h)

/-- A list filled up to `2 ^ h` entries. -/
def expand : Nat → List α → List α
  | 0, xs => xs
  | h + 1, xs => expand h (xs.take (2 ^ h)) ++ expand h (secondHalf h xs)

theorem take_ne_nil {h : Nat} {xs : List α} (hxs : xs ≠ []) : xs.take (2 ^ h) ≠ [] := by
  have hpos := Nat.two_pow_pos h
  rw [← List.length_pos_iff] at hxs ⊢
  rw [List.length_take]
  omega

theorem secondHalf_of_gt {h : Nat} {xs : List α} (hxs : 2 ^ h < xs.length) :
    secondHalf h xs = xs.drop (2 ^ h) := by
  unfold secondHalf
  rw [if_neg]
  intro hnil
  have := List.drop_eq_nil_iff.1 hnil
  omega

theorem secondHalf_ne_nil {h : Nat} {xs : List α} (hxs : xs ≠ []) : secondHalf h xs ≠ [] := by
  unfold secondHalf
  split
  · exact take_ne_nil hxs
  · assumption

theorem length_take_le {h : Nat} {xs : List α} : (xs.take (2 ^ h)).length ≤ 2 ^ h := by
  rw [List.length_take]
  exact Nat.min_le_left _ _

theorem length_secondHalf_le {h : Nat} {xs : List α} (hxs : xs.length ≤ 2 ^ (h + 1)) :
    (secondHalf h xs).length ≤ 2 ^ h := by
  unfold secondHalf
  split
  · exact length_take_le
  · rw [Nat.pow_succ] at hxs
    rw [List.length_drop]
    omega

theorem length_expand {h : Nat} {xs : List α} (hne : xs ≠ []) (hxs : xs.length ≤ 2 ^ h) :
    (expand h xs).length = 2 ^ h := by
  induction h generalizing xs with
  | zero =>
    have := List.length_pos_iff.2 hne
    rw [Nat.pow_zero] at hxs ⊢
    rw [expand]
    omega
  | succ h ih =>
    rw [expand, List.length_append, ih (take_ne_nil hne) length_take_le,
      ih (secondHalf_ne_nil hne) (length_secondHalf_le hxs), Nat.pow_succ]
    omega

theorem secondHalf_map (f : α → β) (h : Nat) (xs : List α) :
    secondHalf h (xs.map f) = (secondHalf h xs).map f := by
  unfold secondHalf
  simp only [← List.map_drop, ← List.map_take, List.map_eq_nil_iff]
  split <;> rfl

theorem expand_map (f : α → β) (h : Nat) (xs : List α) :
    expand h (xs.map f) = (expand h xs).map f := by
  induction h generalizing xs with
  | zero => rfl
  | succ h ih =>
    rw [expand, expand, List.map_append, ← List.map_take, secondHalf_map, ih, ih]

/-- Filling up adds nothing new. -/
theorem expand_subset (h : Nat) (xs : List α) : expand h xs ⊆ xs := by
  induction h generalizing xs with
  | zero => exact List.Subset.refl xs
  | succ h ih =>
    rw [expand]
    refine List.append_subset.2 ⟨?_, ?_⟩
    · exact List.Subset.trans (ih _) (List.take_subset _ _)
    · refine List.Subset.trans (ih _) ?_
      unfold secondHalf
      split
      · exact List.take_subset _ _
      · exact List.drop_subset _ _

theorem expand_of_length_eq {h : Nat} {xs : List α} (hxs : xs.length = 2 ^ h) :
    expand h xs = xs := by
  induction h generalizing xs with
  | zero => rfl
  | succ h ih =>
    have hpos := Nat.two_pow_pos h
    rw [Nat.pow_succ] at hxs
    have htake : (xs.take (2 ^ h)).length = 2 ^ h := by rw [List.length_take]; omega
    have hdrop : (xs.drop (2 ^ h)).length = 2 ^ h := by rw [List.length_drop]; omega
    rw [expand, secondHalf_of_gt (by omega), ih htake, ih hdrop, List.take_append_drop]

/-- Filling up only appends. -/
theorem prefix_expand {h : Nat} {xs : List α} (hxs : xs.length ≤ 2 ^ h) :
    xs <+: expand h xs := by
  induction h generalizing xs with
  | zero => exact List.prefix_refl xs
  | succ h ih =>
    rw [expand]
    by_cases hfit : xs.length ≤ 2 ^ h
    · rw [List.take_of_length_le hfit]
      exact (ih hfit).trans (List.prefix_append _ _)
    · have htake : (xs.take (2 ^ h)).length = 2 ^ h := by rw [List.length_take]; omega
      have hsecond := secondHalf_of_gt (Nat.lt_of_not_le hfit)
      have hdrop : (xs.drop (2 ^ h)).length ≤ 2 ^ h := by
        rw [← hsecond]
        exact length_secondHalf_le hxs
      rw [expand_of_length_eq htake, hsecond]
      conv_lhs => rw [← List.take_append_drop (2 ^ h) xs]
      exact List.prefix_append_right_inj _ |>.2 (ih hdrop)

end Expand

/-! ## Filling up and joining -/

theorem pairs_append {lower upper : List Digest} (h : lower.length % 2 = 0) :
    pairs (lower ++ upper) = pairs lower ++ pairs upper := by
  induction lower using pairs.induct with
  | case1 => rfl
  | case2 d => simp at h
  | case3 left right rest ih =>
    rw [List.length_cons, List.length_cons] at h
    rw [List.cons_append, List.cons_append, pairs, pairs, ih (by omega), List.cons_append]

theorem pairs_take (n : Nat) (ds : List Digest) :
    pairs (ds.take (2 * n)) = (pairs ds).take n := by
  induction n generalizing ds with
  | zero => rfl
  | succ n ih =>
    rw [Nat.mul_succ]
    match ds with
    | [] => rfl
    | [d] => simp [pairs]
    | left :: right :: rest =>
      rw [List.take_succ_cons, List.take_succ_cons, pairs, pairs, ih, List.take_succ_cons]

theorem pairs_drop (n : Nat) (ds : List Digest) :
    pairs (ds.drop (2 * n)) = (pairs ds).drop n := by
  induction n generalizing ds with
  | zero => rfl
  | succ n ih =>
    rw [Nat.mul_succ]
    match ds with
    | [] => rfl
    | [d] => simp [pairs]
    | left :: right :: rest =>
      rw [List.drop_succ_cons, List.drop_succ_cons, pairs, ih, List.drop_succ_cons]

theorem pairs_eq_nil_iff (ds : List Digest) : pairs ds = [] ↔ ds = [] := by
  fun_cases pairs ds <;> simp

theorem pairs_secondHalf (h : Nat) (ds : List Digest) :
    pairs (secondHalf (h + 1) ds) = secondHalf h (pairs ds) := by
  have htwo : 2 ^ (h + 1) = 2 * 2 ^ h := by ring
  unfold secondHalf
  simp only [htwo, ← pairs_drop, ← pairs_take, pairs_eq_nil_iff]
  split <;> rfl

/-- The strings of a filled level are the filled strings of the level. -/
theorem pairs_expand {h : Nat} {ds : List Digest} (hne : ds ≠ [])
    (hds : ds.length ≤ 2 ^ (h + 1)) : pairs (expand (h + 1) ds) = expand h (pairs ds) := by
  induction h generalizing ds with
  | zero =>
    match ds with
    | [d] => rfl
    | [left, right] => rfl
  | succ h ih =>
    have heven : (expand (h + 1) (ds.take (2 ^ (h + 1)))).length % 2 = 0 := by
      rw [length_expand (take_ne_nil hne) length_take_le, Nat.pow_succ, Nat.mul_mod_left]
    have htwo : 2 ^ (h + 1) = 2 * 2 ^ h := by ring
    rw [expand, pairs_append heven, ih (take_ne_nil hne) length_take_le,
      ih (secondHalf_ne_nil hne) (length_secondHalf_le hds), pairs_secondHalf, htwo, pairs_take,
      ← expand]

theorem nextLevel_expand {h : Nat} {ds : List Digest} (hne : ds ≠ [])
    (hds : ds.length ≤ 2 ^ (h + 1)) :
    nextLevel (expand (h + 1) ds) = expand h (nextLevel ds) := by
  rw [nextLevel_eq_map, nextLevel_eq_map, pairs_expand hne hds, expand_map]

theorem pairs_inj {as bs : List Digest} (ha : as.length % 2 = 0) (hb : bs.length % 2 = 0)
    (h : pairs as = pairs bs) : as = bs := by
  induction as using pairs.induct generalizing bs with
  | case1 => exact ((pairs_eq_nil_iff bs).1 h.symm).symm
  | case2 d => simp at ha
  | case3 left right rest ih =>
    match bs with
    | [] => simp [pairs] at h
    | [d] => simp at hb
    | left' :: right' :: rest' =>
      rw [pairs, pairs, List.cons.injEq, Digest.pair_inj] at h
      obtain ⟨⟨rfl, rfl⟩, hrest⟩ := h
      simp only [List.length_cons] at ha hb
      rw [ih (by omega) (by omega) hrest]

/-! ## Roots -/

theorem length_expand_mod_two {h : Nat} {ds : List Digest} (hne : ds ≠ [])
    (hh : heightOf ds.length = h + 1) : (expand (h + 1) ds).length % 2 = 0 := by
  rw [length_expand hne (length_le_of_heightOf_eq hh), Nat.pow_succ,
    Nat.mul_mod_left]

theorem rootFrom_eq_of_expand_eq {h : Nat} {as bs : List Digest} (ha : as ≠ []) (hb : bs ≠ [])
    (hha : heightOf as.length = h) (hhb : heightOf bs.length = h)
    (heq : expand h as = expand h bs) : rootFrom as = rootFrom bs := by
  induction h generalizing as bs with
  | zero => rw [expand, expand] at heq; rw [heq]
  | succ h ih =>
    obtain ⟨hlta, hnexta⟩ := one_lt_of_heightOf_eq_succ hha
    obtain ⟨hltb, hnextb⟩ := one_lt_of_heightOf_eq_succ hhb
    have hnext : expand h (nextLevel as) = expand h (nextLevel bs) := by
      rw [← nextLevel_expand ha (length_le_of_heightOf_eq hha), heq,
        nextLevel_expand hb (length_le_of_heightOf_eq hhb)]
    rw [← rootFrom_nextLevel hlta, ← rootFrom_nextLevel hltb]
    exact ih (nextLevel_ne_nil ha) (nextLevel_ne_nil hb) hnexta hnextb hnext

/-- Equal filled levels come from equal filled levels below, or two strings collide. -/
theorem expand_eq_of_expand_nextLevel_eq {h : Nat} {as bs : List Digest} (ha : as ≠ [])
    (hb : bs ≠ []) (hha : heightOf as.length = h + 1) (hhb : heightOf bs.length = h + 1)
    (heq : expand h (nextLevel as) = expand h (nextLevel bs)) :
    expand (h + 1) as = expand (h + 1) bs ∨
      Collide doubleSha256 (pairs as) (pairs bs) := by
  rw [nextLevel_eq_map, nextLevel_eq_map, expand_map, expand_map] at heq
  rcases eq_or_collide_of_map_eq heq with hpairs | hc
  · rw [← pairs_expand ha (length_le_of_heightOf_eq hha),
      ← pairs_expand hb (length_le_of_heightOf_eq hhb)] at hpairs
    exact Or.inl (pairs_inj (length_expand_mod_two ha hha) (length_expand_mod_two hb hhb) hpairs)
  · exact Or.inr (hc.mono (expand_subset _ _) (expand_subset _ _))

theorem expand_eq_of_rootFrom_eq {h : Nat} {as bs : List Digest} (ha : as ≠ []) (hb : bs ≠ [])
    (hha : heightOf as.length = h) (hhb : heightOf bs.length = h)
    (heq : rootFrom as = rootFrom bs) :
    expand h as = expand h bs ∨
      Collide doubleSha256 ((levelsFrom as).dropLast.flatMap pairs)
        ((levelsFrom bs).dropLast.flatMap pairs) := by
  induction h generalizing as bs with
  | zero =>
    obtain ⟨a, rfl⟩ := eq_singleton_of_heightOf_eq_zero ha hha
    obtain ⟨b, rfl⟩ := eq_singleton_of_heightOf_eq_zero hb hhb
    rw [rootFrom_singleton, rootFrom_singleton] at heq
    exact Or.inl (by rw [heq])
  | succ h ih =>
    obtain ⟨hlta, hnexta⟩ := one_lt_of_heightOf_eq_succ hha
    obtain ⟨hltb, hnextb⟩ := one_lt_of_heightOf_eq_succ hhb
    rw [dropLast_levelsFrom_of_one_lt hlta, dropLast_levelsFrom_of_one_lt hltb,
      List.flatMap_cons, List.flatMap_cons]
    rw [← rootFrom_nextLevel hlta, ← rootFrom_nextLevel hltb] at heq
    rcases ih (nextLevel_ne_nil ha) (nextLevel_ne_nil hb) hnexta hnextb heq with hnext | hc
    · rcases expand_eq_of_expand_nextLevel_eq ha hb hha hhb hnext with hexpand | hc
      · exact Or.inl hexpand
      · exact Or.inr (hc.mono (List.subset_append_left _ _) (List.subset_append_left _ _))
    · exact Or.inr (hc.mono (List.subset_append_right _ _) (List.subset_append_right _ _))

/-- Lists of the same length that fill up to the same list are the same. -/
theorem eq_of_expand_eq {α : Type} {h : Nat} {xs ys : List α} (hxs : xs.length ≤ 2 ^ h)
    (hlength : xs.length = ys.length) (heq : expand h xs = expand h ys) : xs = ys := by
  have hx := prefix_expand hxs
  have hy := prefix_expand (hlength ▸ hxs : ys.length ≤ 2 ^ h)
  rw [← heq] at hy
  exact (List.prefix_of_prefix_length_le hx hy (Nat.le_of_eq hlength)).eq_of_length hlength

/-- **Commitment.**  Trees of the same height have the same root if their leaves fill up to
the same list.  If they have the same root then their leaves do, and are the same where
they are equally many, or a string hashed for the one tree collides with one hashed for
the other. -/
theorem root_eq_iff_expand (s t : Tree) (hheight : s.height = t.height) :
    (expand s.height s.leaves = expand t.height t.leaves → s.root = t.root) ∧
    (s.root = t.root →
      (expand s.height s.leaves = expand t.height t.leaves ∧
        (s.leafCount = t.leafCount → s.leaves = t.leaves)) ∨
      Collide doubleSha256 s.hashed t.hashed) := by
  have hs : heightOf s.leaves.length = t.height := by rw [← hheight, s.height_eq, Tree.leafCount]
  have ht : heightOf t.leaves.length = t.height := by rw [t.height_eq, Tree.leafCount]
  rw [hheight, s.root_eq, t.root_eq, Tree.hashed, Tree.hashed, s.levels_eq, t.levels_eq]
  constructor
  · exact rootFrom_eq_of_expand_eq s.leaves_ne_nil t.leaves_ne_nil hs ht
  · intro hroot
    rcases expand_eq_of_rootFrom_eq s.leaves_ne_nil t.leaves_ne_nil hs ht hroot with heq | hc
    · refine Or.inl ⟨heq, fun hcount => eq_of_expand_eq ?_ hcount heq⟩
      exact length_le_of_heightOf_eq hs
    · exact Or.inr hc

/-- A last leaf that is paired with itself is not told from one that stands there twice. -/
theorem root_eq_of_last_repeated :
    ∃ s t : Tree, s.leaves = [.ofNat 1, .ofNat 2, .ofNat 3] ∧
      t.leaves = [.ofNat 1, .ofNat 2, .ofNat 3, .ofNat 3] ∧
      s.height = t.height ∧ s.root = t.root := by
  obtain ⟨s, hs⟩ := Tree.exists_leaves_eq
    (List.cons_ne_nil (Digest.ofNat 1) [.ofNat 2, .ofNat 3])
  obtain ⟨t, ht⟩ := Tree.exists_leaves_eq
    (List.cons_ne_nil (Digest.ofNat 1) [.ofNat 2, .ofNat 3, .ofNat 3])
  have hsheight : s.height = 2 := by
    rw [s.height_eq, Tree.leafCount, hs]
    decide
  have htheight : t.height = 2 := by
    rw [t.height_eq, Tree.leafCount, ht]
    decide
  have hheight : s.height = t.height := hsheight.trans htheight.symm
  refine ⟨s, t, hs, ht, hheight, ?_⟩
  apply (root_eq_iff_expand s t hheight).1
  rw [hsheight, htheight, hs, ht]
  rfl

end Attest.Merkle
