import Attest.Digest
import Attest.Given
import Attest.Json.Writer
import Attest.Merkle.Wire
import Attest.Number

/-!
# Proofs with parts of any kind

Callers may hand over anything as a proof, a root, an index or a number of leaves. A part is then
either what it should be or some other thing, and a proof with a part of the wrong kind does not
hold. Only of an index no kind is demanded: it is halved step by step like a number, and where its
type has a failure for that, so has the check.
-/

namespace Attest.Merkle

/-- Things of a type that is not the library's, with what checking asks of them. Any answer may be a
failure of their own. -/
class Foreign (φ : Type) where
  /-- Whether a thing is less than zero. -/
  isNegative : φ → Except Failure Bool
  /-- Whether halving a thing leaves nothing over. -/
  isEven : φ → Except Failure Bool
  /-- Half of a thing, rounded down. -/
  half : φ → Except Failure φ
  /-- Whether a thing equals zero. -/
  isZero : φ → Except Failure Bool
  /-- Whether a digest differs from a thing. -/
  differs : Digest → φ → Except Failure Bool
  /-- What a thing has for the leaf of a proof. -/
  leaf : φ → Except Failure (Given Digest φ)
  /-- What a thing has for the index of a proof, as a fault reports it. -/
  index : φ → Except Failure Value
  /-- What a thing has for the text of a digest, as a fault reports it. -/
  toHex : φ → Except Failure Value
  /-- A thing as a fault reports it. -/
  datum : φ → Value
  /-- A thing as a message shows it. -/
  plain : φ → Except Failure String

/-- Data has no parts that a proof or a digest has, and only numbers can be halved. -/
instance : Foreign Value where
  isNegative v := do return (← v.comparable "<").isLess (.int 0)
  isEven v := do return (← v.operand "%").isEven
  half v := do return .ofNumber (← v.operand "//").half
  isZero v := .ok (v.number?.any fun x => x.compare (.int 0) = some .eq)
  differs _ _ := .ok true
  leaf v := .error (.lacksAttribute v.kind "leaf_hash")
  index v := .error (.lacksAttribute v.kind "leaf_index")
  toHex v := .error (.lacksAttribute v.kind "to_hex")
  datum v := v
  plain v := if v.isWritable then .ok v.plain else .error (.badValue Numeral.unwritableText)

/-- A step whose hash may be of the wrong kind. -/
structure UncheckedStep (φ : Type) where
  hash : Given Digest φ
  side : Side

/-- A proof whose hashes, index and steps may be of the wrong kind. -/
structure UncheckedProof (φ : Type) where
  leaf : Given Digest φ
  index : φ
  steps : List (Given (UncheckedStep φ) φ)
  root : Given Digest φ

/-- The tree over leaves that may be of the wrong kind; the first wrong one is refused. -/
def Tree.ofGiven (leaves : List (Given Digest)) : Except Failure Tree := do
  let proper ← leaves.mapM fun leaf =>
    match leaf with
    | .proper d => Except.ok d
    | .other v => Except.error (Failure.badType s!"Leaves must be Hash256, got {v.kind}")
  Except.widen (Tree.ofLeaves proper)

def heightOfValue (n : Value) : Except Failure Nat :=
  match n.whole? with
  | some n => .ok (heightOf n)
  | none => do
    if (← n.comparable "<=").isAtMost (.int 1) then return heightOf 0
    throw (.lacksAttribute n.kind "bit_length")

def Tree.proveAt (t : Tree) (index : Value) : Except Failure Proof := do
  let x ← index.comparable "<"
  if x.isLess (.int 0) || (Number.int t.leafCount).isAtMost x then
    throw (.outOfRange index t.leafCount [])
  match index.whole? with
  | some i => t.prove i
  | none => throw (.badType s!"tuple indices must be integers or slices, not {index.kind}")

/-- The place that an index names among a number of things; a negative one counts from the end. -/
def placeAmong (count : Nat) (index : Value) : Except Failure Nat :=
  match index.whole? with
  | none => .error (.badType s!"list indices must be integers or slices, not {index.kind}")
  | some i =>
    let place := if i < 0 then i + count else i
    if 0 ≤ place ∧ place < count then .ok place.toNat
    else .error (.badIndex "list index out of range")

def Proof.unchecked (p : Proof) : UncheckedProof Value where
  leaf := .proper p.leaf
  index := .int p.index
  steps := p.steps.map fun s => .proper { hash := .proper s.hash, side := s.side }
  root := .proper p.root

section
variable {φ : Type}

/-- The step, if it and its hash are of the right kind. -/
def UncheckedStep.proper? (s : Given (UncheckedStep φ) φ) : Option Step := do
  let s ← s.proper?
  let hash ← s.hash.proper?
  return { hash, side := s.side }

variable [Foreign φ]

/-- Whether sides spell an index, lowest bit first. The first side that does not ends it, and the
index is asked nothing more. -/
def indexSpells (index : φ) : List Side → Except Failure Bool
  | [] => Foreign.isZero index
  | side :: rest => do
    if side ≠ (if ← Foreign.isEven index then Side.right else Side.left) then return false
    indexSpells (← Foreign.half index) rest

namespace UncheckedProof

/-- A proof from an index that may be anything. A negative one is refused. -/
def make (leaf : Given Digest φ) (index : φ) (steps : List (Given (UncheckedStep φ) φ))
    (root : Given Digest φ) : Except Failure (UncheckedProof φ) := do
  if ← Foreign.isNegative index then
    throw (.badValue s!"Leaf index must be non-negative, got {← Foreign.plain index}")
  return { leaf, index, steps, root }

/-- Whether the proof has parts of the right kinds and holds against a root of the right kind. Only
then the index is looked at. -/
def verify (p : UncheckedProof φ) (root : Given Digest φ) : Except Failure Bool :=
  match p.leaf.proper?, p.steps.mapM UncheckedStep.proper?, root.proper? with
  | some leaf, some steps, some root => do
    return (← indexSpells p.index (steps.map (·.side))) && climb leaf steps = root
  | _, _, _ => .ok false

/-- Whether the proof holds against `root`, or against its own root when none is given. -/
def verifyOr (p : UncheckedProof φ) (root : Option (Given Digest φ)) : Except Failure Bool :=
  p.verify (root.getD p.root)

end UncheckedProof

variable (item : Bytes) (proof : Given (UncheckedProof φ) φ) (root : Given Digest φ)

/-- Whether what is given as a proof holds against what is given as a root. -/
def verifyGiven : Except Failure Bool :=
  match proof with
  | .proper p => p.verify root
  | .other _ => .ok false

def leafOf : Except Failure (Given Digest φ) :=
  match proof with
  | .proper p => .ok p.leaf
  | .other v => Foreign.leaf v

def leafDiffers : Given Digest φ → Except Failure Bool
  | .proper leaf => .ok (decide (sha256 item ≠ leaf))
  | .other v => Foreign.differs (sha256 item) v

/-- Whether what is given as a proof holds and is about `item`: what it has for a leaf is compared
first. -/
def verifyGivenItem : Except Failure Bool := do
  if ← leafDiffers item (← leafOf proof) then return false
  verifyGiven proof root

def reportedIndex : Except Failure Value :=
  match proof with
  | .proper p => .ok (Foreign.datum p.index)
  | .other v => Foreign.index v

def reportedRoot : Except Failure Value :=
  match root with
  | .proper d => .ok (.text d.toHex)
  | .other v => Foreign.toHex v

/-- Demands that a proof holds. The fault names index and root, so what has none cannot even be
refused by it. -/
def requireGiven : Except Failure Unit := do
  if ← verifyGiven proof root then return
  throw (.fault (.proofRejected (← reportedIndex proof) (← reportedRoot root)))

end

/-! ## Text -/

/-- A number that things can be counted by: one of 64 bits with a sign. -/
def isCount (n : Int) : Bool :=
  -(Nat.pow 2 63 : Nat) ≤ n && n < (Nat.pow 2 63 : Nat)

/-- The layout that data asks for: one line, or lines indented by a text or by a number of spaces,
of which a negative one is none. -/
def layoutOf (indent : Value) : Except Failure Json.Layout :=
  match indent, indent.whole? with
  | .null, _ => .ok .line
  | .text s, _ => .ok (.indented s.toList)
  | v, some n =>
    if isCount n then .ok (.spaces n.toNat) else .error (.uncountable v.kind)
  | v, none =>
    .error (.badType s!"can't multiply sequence by non-int of type {Quoted.encode v.kind}")

def Proof.ofJsonValue : Value → Except Failure Proof
  | .text s => ofJson s
  | v => .error (.badType s!"the JSON object must be str, bytes or bytearray, not {v.kind}")

end Attest.Merkle
