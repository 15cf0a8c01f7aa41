import Attest.Proofs.Merkle.Climb
import Attest.Proofs.Value

/-!
# Proofs made are proofs accepted

Making a proof walks through the stored levels by halving an index; checking it hashes
upwards and reads the index off the sides.  The two meet in `input_stepAt`: the step
picked at a position hashes, with the node there, the string that the tree hashes for the
node above.  This holds on even, odd and self-paired positions alike, so a walk through
all levels ends at the root (`climb_stepsFrom`) and hashes nothing that the tree does not
(`climbInputs_stepsFrom_subset`).
-/

namespace Attest.Merkle

/-! ## One level -/

theorem Step.input_of_right {s : Step} (h : s.side = .right) (d : Digest) :
    s.input d = Digest.pair d s.hash := by
  rw [input, h]

theorem Step.input_of_left {s : Step} (h : s.side = .left) (d : Digest) :
    s.input d = Digest.pair s.hash d := by
  rw [input, h]

/-- The step picked at a position hashes the string of the node above. -/
theorem input_stepAt {ds : List Digest} {i : Nat} {d : Digest} (h : ds[i]? = some d) :
    (pairs ds)[i / 2]? = some ((stepAt ds i).input d) := by
  rw [getElem?_pairs]
  obtain heven | hodd : i = 2 * (i / 2) ∨ i = 2 * (i / 2) + 1 := by omega
  · rw [heven] at h
    have hside : (stepAt ds i).side = .right := by
      rw [side_stepAt, if_pos (by omega)]
    have hhash : (stepAt ds i).hash = ds[2 * (i / 2) + 1]?.getD d := by
      conv_lhs => rw [heven]
      exact hash_stepAt_left h
    rw [h, Step.input_of_right hside, hhash]
    rfl
  · rw [hodd] at h
    have hlt := (List.getElem?_eq_some_iff.1 h).1
    obtain ⟨left, hleft⟩ : ∃ left, ds[2 * (i / 2)]? = some left :=
      ⟨_, List.getElem?_eq_getElem (by omega)⟩
    have hside : (stepAt ds i).side = .left := by
      rw [side_stepAt, if_neg (by omega)]
    have hhash : (stepAt ds i).hash = left := by
      conv_lhs => rw [hodd]
      exact hash_stepAt_right hleft
    rw [hleft, h, Step.input_of_left hside, hhash]
    rfl

/-- The step picked at a position leads from the node there to the node above. -/
theorem apply_stepAt {ds : List Digest} {i : Nat} {d : Digest} (h : ds[i]? = some d) :
    (nextLevel ds)[i / 2]? = some ((stepAt ds i).apply d) := by
  rw [nextLevel_eq_map, List.getElem?_map, input_stepAt h, Step.apply_eq_doubleSha256]
  rfl

/-! ## All levels -/

/-- Walking up from a node hashes to the root. -/
theorem climb_stepsFrom {ds : List Digest} {i : Nat} {d : Digest} (h : ds[i]? = some d) :
    climb d (stepsFrom i (levelsFrom ds).dropLast) = rootFrom ds := by
  induction ds using levelsFrom.induct generalizing i d with
  | case1 ds hlength ih =>
    rw [dropLast_levelsFrom_of_one_lt hlength, stepsFrom, climb_cons, ih (apply_stepAt h),
      rootFrom_nextLevel hlength]
  | case2 ds hlength =>
    have hi := (List.getElem?_eq_some_iff.1 h).1
    obtain ⟨e, rfl⟩ : ∃ e, ds = [e] := by
      rw [← List.length_eq_one_iff]
      omega
    have hzero : i = 0 := by
      rw [List.length_singleton] at hi
      omega
    subst hzero
    rw [List.getElem?_cons_zero, Option.some.injEq] at h
    rw [dropLast_levelsFrom_of_le_one (by omega), stepsFrom, rootFrom_singleton, h]
    rfl

/-- Walking up from a node hashes strings of the tree only. -/
theorem climbInputs_stepsFrom_subset {ds : List Digest} {i : Nat} {d : Digest}
    (h : ds[i]? = some d) :
    climbInputs d (stepsFrom i (levelsFrom ds).dropLast) ⊆
      (levelsFrom ds).dropLast.flatMap pairs := by
  induction ds using levelsFrom.induct generalizing i d with
  | case1 ds hlength ih =>
    rw [dropLast_levelsFrom_of_one_lt hlength, stepsFrom, climbInputs, List.flatMap_cons]
    refine List.cons_subset.2 ⟨?_, ?_⟩
    · exact List.mem_append_left _ (List.mem_of_getElem? (input_stepAt h))
    · exact List.Subset.trans (ih (apply_stepAt h)) (List.subset_append_right _ _)
  | case2 ds hlength =>
    rw [dropLast_levelsFrom_of_le_one (by omega)]
    exact List.nil_subset _

/-- The sides met on the way up from a position spell it. -/
theorem sidesSpell_stepsFrom {ds : List Digest} {i : Nat} (h : i < ds.length) :
    sidesSpell i ((stepsFrom i (levelsFrom ds).dropLast).map (·.side)) = true := by
  induction ds using levelsFrom.induct generalizing i with
  | case1 ds hlength ih =>
    rw [dropLast_levelsFrom_of_one_lt hlength, stepsFrom, List.map_cons, sidesSpell_cons]
    refine ⟨side_stepAt ds i, ih ?_⟩
    rw [length_nextLevel]
    omega
  | case2 ds hlength =>
    rw [dropLast_levelsFrom_of_le_one (by omega)]
    have hzero : i = 0 := by omega
    rw [hzero]
    rfl

/-! ## Trees -/

/-- What a proof for the leaf at `i` of a tree has to be. -/
structure Proves (t : Tree) (i : Int) (p : Proof) : Prop where
  leaf : t.leaves[i.toNat]? = some p.leaf
  index : (p.index : Int) = i
  root : p.root = t.root
  height : p.height = t.height
  verified : p.verify t.root = true

/-- The proof for the leaf at a position. -/
def Tree.proofAt (t : Tree) (i : Nat) : Proof where
  leaf := t.leaves.getD i .zero
  index := i
  steps := stepsFrom i t.levels.dropLast
  root := t.root

theorem Tree.leaf_proofAt (t : Tree) {i : Nat} (h : i < t.leafCount) :
    t.leaves[i]? = some (t.proofAt i).leaf := by
  rw [proofAt, List.getD_eq_getElem?_getD, List.getElem?_eq_getElem h]
  rfl

theorem Tree.proves_proofAt (t : Tree) {i : Nat} (h : i < t.leafCount) :
    Proves t i (t.proofAt i) := by
  refine ⟨t.leaf_proofAt h, rfl, rfl, ?_, ?_⟩
  · rw [Proof.height, proofAt, length_stepsFrom, List.length_dropLast, height]
  · rw [Proof.verify_iff, t.root_eq, proofAt, t.levels_eq]
    exact ⟨sidesSpell_stepsFrom h, climb_stepsFrom (t.leaf_proofAt h)⟩

theorem Tree.hashed_proofAt_subset (t : Tree) {i : Nat} (h : i < t.leafCount) :
    (t.proofAt i).hashed ⊆ t.hashed := by
  rw [Proof.hashed, hashed, proofAt, t.levels_eq]
  exact climbInputs_stepsFrom_subset (t.leaf_proofAt h)

theorem Tree.prove_of_lt (t : Tree) {i : Nat} (h : i < t.leafCount) :
    t.prove i = .ok (t.proofAt i) := by
  unfold prove
  rw [if_pos (by omega)]
  rfl

theorem Tree.prove_of_not_inRange (t : Tree) {i : Int} (h : ¬ (0 ≤ i ∧ i < t.leafCount)) :
    t.prove i = .error (.outOfRange (.int i) t.leafCount []) := by
  unfold prove
  rw [if_neg h]

theorem mapM_eq_ok {α β ε : Type} {f : α → Except ε β} {g : α → β} {xs : List α}
    (h : ∀ x ∈ xs, f x = .ok (g x)) : xs.mapM f = .ok (xs.map g) := by
  induction xs with
  | nil => rfl
  | cons x xs ih =>
    rw [List.mapM_cons, h x (by simp), ih fun y hy => h y (by simp [hy])]
    rfl

theorem Tree.proveEach_eq (t : Tree) :
    t.proveEach = .ok ((List.range t.leafCount).map t.proofAt) :=
  mapM_eq_ok fun _ hi => t.prove_of_lt (List.mem_range.1 hi)

/-- **Completeness.**  Over leaves, of which there is at least one, there is a tree of the
least sufficient height.  Each index of a leaf has a proof in it that holds, and the proofs
for all items with these leaves are those proofs in order.  Any other integer that can be
written is refused as an index out of range; the refusal would name the others too, so that
these fail at the limit for writing instead. -/
theorem prove_inRange_or_refuse (leaves : List Digest) (hne : leaves ≠ []) :
    ∃ t : Tree, Tree.ofLeaves leaves = .ok t ∧ t.leaves = leaves ∧
      t.height = heightOf leaves.length ∧
      (∀ i : Int, 0 ≤ i → i < leaves.length → ∃ p, t.prove i = .ok p ∧ Proves t i p) ∧
      (∀ i : Int, ¬ (0 ≤ i ∧ i < leaves.length) → t.prove i =
        if Numeral.isWritable i then
          .error (.fault (.indexOutOfRange (.int i) leaves.length []))
        else .error (.badValue Numeral.unwritableText)) ∧
      ∀ items : List Bytes, items.map sha256 = leaves → Tree.ofItems items = .ok t ∧
        ∃ ps, proveAll items = .ok ps ∧ ps.length = leaves.length ∧
          ∀ i : Nat, i < leaves.length → ∃ p, ps[i]? = some p ∧ t.prove i = .ok p := by
  obtain ⟨t, rfl⟩ := Tree.exists_leaves_eq hne
  have hcount : t.leaves.length = t.leafCount := rfl
  rw [hcount]
  refine ⟨t, t.ofLeaves_leaves, rfl, t.height_eq, ?_, ?_, ?_⟩
  · intro i hpos hlt
    obtain ⟨n, rfl⟩ := Int.eq_ofNat_of_zero_le hpos
    have hn : n < t.leafCount := by omega
    exact ⟨t.proofAt n, t.prove_of_lt hn, t.proves_proofAt hn⟩
  · intro i hi
    rw [t.prove_of_not_inRange hi]
    exact Failure.error_naming i _
  · intro items hitems
    have htree : Tree.ofItems items = .ok t := by rw [Tree.ofItems, hitems, t.ofLeaves_leaves]
    refine ⟨htree, (List.range t.leafCount).map t.proofAt, ?_, by simp, ?_⟩
    · rw [proveAll, htree]
      exact t.proveEach_eq
    · intro i hi
      exact ⟨t.proofAt i, by simp [hi], t.prove_of_lt hi⟩

theorem prove_inRange_or_refuse_three :
    [[1], [2], [3]].map sha256 ≠ [] ∧
      ∃ t p, Tree.ofItems [[1], [2], [3]] = .ok t ∧ t.height = 2 ∧
        t.prove 2 = .ok p ∧ Proves t 2 p ∧
        t.prove 3 = .error (.fault (.indexOutOfRange (.int 3) 3 [])) ∧
        ∃ ps, proveAll [[1], [2], [3]] = .ok ps ∧ ps[2]? = some p := by
  have hne : [[1], [2], [3]].map sha256 ≠ [] := by simp
  obtain ⟨t, -, -, hheight, hprove, hrefuse, hitems⟩ := prove_inRange_or_refuse _ hne
  obtain ⟨htree, ps, hps, -, hall⟩ := hitems [[1], [2], [3]] rfl
  obtain ⟨p, hp, hproves⟩ := hprove 2 (by decide) (by simp)
  obtain ⟨q, hq, hq'⟩ := hall 2 (by simp)
  have hpq : q = p := Except.ok.inj (hq'.symm.trans hp)
  have hthree : Numeral.isWritable 3 = true := by decide +kernel
  have hrefused := hrefuse 3 (by simp)
  rw [if_pos hthree] at hrefused
  refine ⟨hne, t, p, htree, hheight, hp, hproves, hrefused, ps, hps, ?_⟩
  rw [hq, hpq]

/-- An index with more digits than can be written has no leaf, and is not refused as out of
range either. -/
theorem prove_unwritable :
    ∃ t, Tree.ofItems [[97]] = .ok t ∧
      ¬ (0 ≤ Numeral.unwritable ∧ Numeral.unwritable < t.leafCount) ∧
      t.prove Numeral.unwritable = .error (.badValue Numeral.unwritableText) ∧
      ¬ ∃ details, t.prove Numeral.unwritable =
        .error (.fault (.indexOutOfRange (.int Numeral.unwritable) t.leafCount details)) := by
  obtain ⟨t, hleaves⟩ := Tree.exists_leaves_eq (List.cons_ne_nil (sha256 [97]) [])
  have ht : Tree.ofItems [[97]] = .ok t := by
    have hmade := t.ofLeaves_leaves
    rwa [hleaves] at hmade
  have hcount : t.leafCount = 1 := by
    rw [Tree.leafCount, hleaves]
    rfl
  have hrange : ¬ (0 ≤ Numeral.unwritable ∧ Numeral.unwritable < t.leafCount) := by
    rw [hcount]
    decide +kernel
  have hrefused : t.prove Numeral.unwritable = .error (.badValue Numeral.unwritableText) := by
    rw [t.prove_of_not_inRange hrange, Failure.outOfRange,
      Failure.naming_of_not_isWritable Numeral.isWritable_unwritable]
  refine ⟨t, ht, hrange, hrefused, ?_⟩
  rintro ⟨details, hfault⟩
  rw [hrefused] at hfault
  cases hfault

end Attest.Merkle
