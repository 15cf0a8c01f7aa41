import Attest.Digest

/-!
# Hash trees

A tree is built upwards from its leaves: each level pairs the nodes of the one below, a lone last
node being paired with itself, until one node is left. The levels are kept, leaves first.
-/

namespace Attest.Merkle

def nextLevel : List Digest → List Digest
  | [] => []
  | [d] => [d.join d]
  | left :: right :: rest => left.join right :: nextLevel rest

theorem length_nextLevel (ds : List Digest) : (nextLevel ds).length = (ds.length + 1) / 2 := by
  fun_induction nextLevel ds with
  | case1 => rfl
  | case2 => simp
  | case3 left right rest ih => simp only [List.length_cons, ih]; omega

/-- The levels from `ds` up to a level of at most one node. -/
def levelsFrom (ds : List Digest) : List (List Digest) :=
  if 1 < ds.length then ds :: levelsFrom (nextLevel ds) else [ds]
termination_by ds.length
decreasing_by rw [length_nextLevel]; omega

/-- A tree: its levels, which are those of its leaves, of which there is at least one. -/
structure Tree where
  leaves : List Digest
  levels : List (List Digest)
  leaves_ne_nil : leaves ≠ []
  levels_eq : levels = levelsFrom leaves
  deriving DecidableEq

namespace Tree

def ofLeaves (leaves : List Digest) : Except Fault Tree :=
  if h : leaves = [] then .error .emptyInput
  else .ok { leaves, levels := levelsFrom leaves, leaves_ne_nil := h, levels_eq := rfl }

/-- The tree over items, each of which is hashed to a leaf. -/
def ofItems (items : List Bytes) : Except Fault Tree :=
  ofLeaves (items.map sha256)

def root (t : Tree) : Digest :=
  ((t.levels.getLastD []).head?).getD .zero

def leafCount (t : Tree) : Nat :=
  t.leaves.length

def height (t : Tree) : Nat :=
  t.levels.length - 1

def shown (t : Tree) : String :=
  s!"MerkleTree(leaves={t.leafCount}, root={t.root.toHex})"

end Tree

/-- The number of levels above `n` leaves: the least `h` with `n ≤ 2 ^ h`. -/
def heightOf (n : Int) : Nat :=
  if n ≤ 1 then 0 else Bytes.bitLength (n - 1).toNat

end Attest.Merkle
