import Attest.Failure
import Attest.Merkle.Tree

/-!
# Inclusion proofs

A proof that a leaf stands at an index of a tree holds one step for each level below the root: the
sibling there and the side it stands on. Checking a proof hashes upwards from the leaf and compares
the result with a trusted root; the sides must also spell the index in binary, lowest bit first.
-/

namespace Attest.Merkle

inductive Side where
  | left
  | right
  deriving DecidableEq, Repr

namespace Side

def name : Side → String
  | left => "left"
  | right => "right"

def refusal (v : Value) : String :=
  v.tell s!"{v.quoted} is not a valid Side"

def ofValue (v : Value) : Except Failure Side :=
  match v with
  | .text "left" => .ok left
  | .text "right" => .ok right
  | _ => .error (.badValue (refusal v))

end Side

/-- A sibling and the side it stands on. -/
structure Step where
  hash : Digest
  side : Side
  deriving DecidableEq, Repr

/-- A proof that `leaf` stands at `index`, with the root at the time it was made. -/
structure Proof where
  leaf : Digest
  index : Nat
  steps : List Step
  root : Digest
  deriving DecidableEq, Repr

/-! ## Making proofs -/

/-- The step for the node at `index` of a level: its neighbour, or the node itself when it is the
last and has none. -/
def stepAt (level : List Digest) (index : Nat) : Step :=
  if index % 2 = 0 then
    { hash := level.getD (index + 1) (level.getD index .zero), side := .right }
  else { hash := level.getD (index - 1) .zero, side := .left }

/-- The steps from the node at `index` of the first of `levels` upwards. -/
def stepsFrom (index : Nat) : List (List Digest) → List Step
  | [] => []
  | level :: above => stepAt level index :: stepsFrom (index / 2) above

namespace Tree

def prove (t : Tree) (index : Int) : Except Failure Proof :=
  if 0 ≤ index ∧ index < t.leafCount then
    let i := index.toNat
    .ok { leaf := t.leaves.getD i .zero, index := i, steps := stepsFrom i t.levels.dropLast,
          root := t.root }
  else .error (.outOfRange (.int index) t.leafCount [])

/-- The index of the first leaf with the hash of `item`. -/
def indexOf (t : Tree) (item : Bytes) : Except Failure Nat :=
  let leaf := sha256 item
  match t.leaves.idxOf? leaf with
  | some i => .ok i
  | none => .error (.outOfRange (.int (-1)) t.leafCount [("leaf_hash", .text leaf.toHex)])

/-- The proof for the first leaf with the hash of `item`. -/
def proveItem (t : Tree) (item : Bytes) : Except Failure Proof := do
  t.prove (← t.indexOf item)

def proveEach (t : Tree) : Except Failure (List Proof) :=
  (List.range t.leafCount).mapM fun (i : Nat) => t.prove i

end Tree

/-- The proofs for all items, in order. -/
def proveAll (items : List Bytes) : Except Failure (List Proof) := do
  (← Except.widen (Tree.ofItems items)).proveEach

/-! ## Checking proofs -/

/-- Whether the sides spell `index`, lowest bit first, a sibling on the left being a one. -/
def sidesSpell (index : Nat) : List Side → Bool
  | [] => index = 0
  | side :: rest =>
    side = (if index % 2 = 0 then Side.right else Side.left) && sidesSpell (index / 2) rest

def Step.apply (d : Digest) (s : Step) : Digest :=
  match s.side with
  | .right => d.join s.hash
  | .left => s.hash.join d

/-- The hash that steps lead to from a leaf. -/
def climb (leaf : Digest) (steps : List Step) : Digest :=
  steps.foldl Step.apply leaf

/-- Whether steps lead from a leaf at an index to a root. -/
def accepts (leaf : Digest) (index : Nat) (steps : List Step) (root : Digest) : Bool :=
  sidesSpell index (steps.map (·.side)) && climb leaf steps = root

namespace Proof

/-- Whether the proof holds against a trusted root; the root that it names itself plays no part. -/
def verify (p : Proof) (root : Digest) : Bool :=
  accepts p.leaf p.index p.steps root

def height (p : Proof) : Nat :=
  p.steps.length

/-- Whether the proof holds against a trusted root and is about `item`. -/
def verifyItem (p : Proof) (item : Bytes) (root : Digest) : Bool :=
  sha256 item = p.leaf && p.verify root

end Proof

end Attest.Merkle
