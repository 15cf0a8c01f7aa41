import Attest.Proofs.Merkle.Completeness
import Attest.Proofs.Merkle.Membership
import Attest.Proofs.Merkle.Mistyped
import Attest.Proofs.Value

/-!
# Finding an item in a tree

An item is looked for by its hash, from the first leaf on.  The position found is the least one with
that hash (`Tree.indexOf_eq_ok_iff`), whatever items stand there, and since the leaf at it is the
hash of the item, the proof made for it is accepted for the item too.
-/

namespace Attest.Merkle

/-- The positions of the items that have the same hash as an item. -/
def positions (items : List Bytes) (item : Bytes) : Set Nat :=
  {i | ∃ other, items[i]? = some other ∧ sha256 other = sha256 item}

/-- The refusal to find an item: there is no leaf with its hash, which is named. -/
def notFound (t : Tree) (item : Bytes) : Failure :=
  .fault (.indexOutOfRange (.int (-1)) t.leafCount [("leaf_hash", .text (sha256 item).toHex)])

namespace Tree

variable {t : Tree} {item : Bytes} {i : Nat}

/-! ## The position -/

theorem indexOf_eq_ok_iff :
    t.indexOf item = .ok i ↔ IsLeast {i | t.leaves[i]? = some (sha256 item)} i := by
  have hfound : t.indexOf item = .ok i ↔ t.leaves.idxOf? (sha256 item) = some i := by
    simp only [indexOf]
    split
    · next j hj => rw [hj, Except.ok.injEq, Option.some.injEq]
    · next hnone => simp [hnone]
  rw [hfound, List.idxOf?_eq_some_iff]
  constructor
  · rintro ⟨hlt, hleaf, hbefore⟩
    refine ⟨List.getElem?_eq_some_iff.2 ⟨hlt, hleaf⟩, fun j hj => ?_⟩
    obtain ⟨hlt', hother⟩ := List.getElem?_eq_some_iff.1 hj
    by_contra hji
    exact hbefore j (Nat.lt_of_not_le hji) hother
  · rintro ⟨hi, hleast⟩
    obtain ⟨hlt, hleaf⟩ := List.getElem?_eq_some_iff.1 hi
    refine ⟨hlt, hleaf, fun j hji hother => ?_⟩
    exact absurd (hleast (List.getElem?_eq_some_iff.2 ⟨_, hother⟩)) (Nat.not_le_of_lt hji)

theorem indexOf_of_mem (h : sha256 item ∈ t.leaves) : ∃ i, t.indexOf item = .ok i := by
  obtain ⟨i, hi⟩ := Option.ne_none_iff_exists'.1 fun hnone => List.idxOf?_eq_none_iff.1 hnone h
  exact ⟨i, by rw [indexOf, hi]⟩

theorem indexOf_of_not_mem (h : sha256 item ∉ t.leaves) :
    t.indexOf item = .error (notFound t item) := by
  have hwritable : Numeral.isWritable (-1) = true := by decide +kernel
  rw [indexOf, List.idxOf?_eq_none_iff.2 h, notFound]
  exact congrArg Except.error (Failure.naming_of_isWritable hwritable)

theorem indexOf_lt (h : t.indexOf item = .ok i) : i < t.leafCount :=
  (List.getElem?_eq_some_iff.1 (indexOf_eq_ok_iff.1 h).1).1

/-! ## The proof -/

theorem proveItem_of_indexOf (h : t.indexOf item = .ok i) :
    t.proveItem item = .ok (t.proofAt i) := by
  rw [proveItem, h]
  exact t.prove_of_lt (indexOf_lt h)

theorem proveItem_of_not_mem (h : sha256 item ∉ t.leaves) :
    t.proveItem item = .error (notFound t item) := by
  rw [proveItem, indexOf_of_not_mem h]
  rfl

/-- The leaf at the position found is the hash of the item, so the proof is one for the item. -/
theorem verifyItem_of_indexOf (h : t.indexOf item = .ok i) :
    (t.proofAt i).verifyItem item t.root = true := by
  have hproves := t.proves_proofAt (indexOf_lt h)
  refine ((t.proofAt i).verifyItem_iff item t.root).2 ⟨?_, hproves.verified⟩
  exact Option.some.inj ((indexOf_eq_ok_iff.1 h).1.symm.trans hproves.leaf)

end Tree

theorem verifyGivenItem_unchecked (p : Proof) (item : Bytes) (d : Digest) :
    verifyGivenItem item (.proper p.unchecked) (.proper d) = .ok (p.verifyItem item d) := by
  rw [verifyGivenItem_of_leaf item rfl, verifyGiven_unchecked, Proof.verifyItem]
  split
  · next heq => rw [decide_eq_true heq, Bool.true_and]
  · next hne => rw [decide_eq_false hne, Bool.false_and]

theorem setOf_leaf_eq_positions {items : List Bytes} {t : Tree} (h : Tree.ofItems items = .ok t)
    (item : Bytes) : {i | t.leaves[i]? = some (sha256 item)} = positions items item := by
  ext i
  change t.leaves[i]? = some (sha256 item) ↔ ∃ other, items[i]? = some other ∧ _
  rw [Tree.leaves_of_ofItems h, List.getElem?_map, Option.map_eq_some_iff]

/-- **An item is found, and at the first place.**  Over items, of which there is at least one, there
is a tree in which any bytes whose hash is a leaf are found: at the least position of an item with
that hash, so at or before each place where the bytes stand themselves, and with the proof for that
position, which holds for the bytes against the root.  Bytes whose hash is no leaf are refused with
that hash, whether their position or a proof is asked for. -/
theorem proveItem_first_or_refuse (items : List Bytes) (hne : items ≠ []) :
    ∃ t, Tree.ofItems items = .ok t ∧ t.leaves = items.map sha256 ∧ ∀ item : Bytes,
      (sha256 item ∈ t.leaves → ∃ p, t.proveItem item = .ok p ∧ t.indexOf item = .ok p.index ∧
        IsLeast (positions items item) p.index ∧ p.verifyItem item t.root = true ∧
        verifyGivenItem item (.proper p.unchecked) (.proper t.root) = .ok true) ∧
      (sha256 item ∉ t.leaves →
        t.indexOf item = .error (notFound t item) ∧ t.proveItem item = .error (notFound t item)) ∧
      ∀ i, items[i]? = some item → ∃ p, t.proveItem item = .ok p ∧ p.index ≤ i := by
  obtain ⟨t, ht⟩ := Tree.ofItems_of_ne_nil hne
  refine ⟨t, ht, Tree.leaves_of_ofItems ht, fun item => ⟨fun hmem => ?_, fun hmem => ?_,
    fun i hi => ?_⟩⟩
  · obtain ⟨i, hindex⟩ := Tree.indexOf_of_mem hmem
    have hverify := Tree.verifyItem_of_indexOf hindex
    refine ⟨t.proofAt i, Tree.proveItem_of_indexOf hindex, hindex, ?_, hverify, ?_⟩
    · exact setOf_leaf_eq_positions ht item ▸ Tree.indexOf_eq_ok_iff.1 hindex
    · rw [verifyGivenItem_unchecked, hverify]
  · exact ⟨Tree.indexOf_of_not_mem hmem, Tree.proveItem_of_not_mem hmem⟩
  · have hposition : i ∈ {i | t.leaves[i]? = some (sha256 item)} :=
      setOf_leaf_eq_positions ht item ▸ ⟨item, hi, rfl⟩
    obtain ⟨j, hindex⟩ := Tree.indexOf_of_mem (List.mem_of_getElem? hposition)
    exact ⟨t.proofAt j, Tree.proveItem_of_indexOf hindex,
      (Tree.indexOf_eq_ok_iff.1 hindex).2 hposition⟩

/-- Two items, and both once more. -/
def repeatedItems : List Bytes :=
  [[1], [2], [1], [2]]

/-- The second item is found at its first place and not at its last; a third item is not found. -/
theorem proveItem_first_or_refuse_repeated :
    repeatedItems ≠ [] ∧ ∃ t p, Tree.ofItems repeatedItems = .ok t ∧
      sha256 [2] ∈ t.leaves ∧ t.proveItem [2] = .ok p ∧ p.index = 1 ∧
      p.verifyItem [2] t.root = true ∧ repeatedItems[3]? = some [2] ∧ p.index ≤ 3 ∧
      sha256 [3] ∉ t.leaves ∧ t.proveItem [3] = .error (notFound t [3]) := by
  have hne : repeatedItems ≠ [] := List.cons_ne_nil _ _
  obtain ⟨t, ht, hleaves, hitem⟩ := proveItem_first_or_refuse repeatedItems hne
  have hmem : sha256 [2] ∈ t.leaves := by
    rw [hleaves]
    exact List.mem_map_of_mem (by decide)
  have hnot : sha256 [3] ∉ t.leaves := by
    rw [hleaves]
    decide +kernel
  obtain ⟨hfound, -, hposition⟩ := hitem [2]
  obtain ⟨p, hp, -, hleast, hverify, -⟩ := hfound hmem
  obtain ⟨q, hq, hle⟩ := hposition 3 rfl
  obtain rfl : p = q := Except.ok.inj (hp.symm.trans hq)
  have hindex : p.index = 1 := by
    have hle : p.index ≤ 1 := hleast.2 ⟨[2], rfl, rfl⟩
    obtain ⟨other, hother, hhash⟩ := hleast.1
    rcases Nat.eq_zero_or_pos p.index with hzero | hpos
    · -- The item before has another hash.
      rw [hzero] at hother
      obtain rfl : [1] = other := Option.some.inj hother
      exact absurd hhash (by decide +kernel)
    · omega
  exact ⟨hne, t, p, ht, hmem, hp, hindex, hverify, rfl, hle, hnot, ((hitem [3]).2.1 hnot).2⟩

end Attest.Merkle
