import Attest.Json.Reader
import Attest.Json.Writer
import Attest.Merkle.Proof
import Attest.Schema

/-!
# Proofs as data

A proof travels as an object with a format version, the leaf's hash and index, the siblings from the
leaf upwards, and the root. Hashes are 64 lower-case hexadecimal digits when written; when read they
may be marked and of either case. The version is carried along and not looked at.
-/

namespace Attest.Merkle

structure WireStep where
  hash : Digest
  side : Side
  deriving DecidableEq, Repr

structure WireProof where
  version : String
  leaf : Digest
  index : Nat
  steps : List WireStep
  root : Digest
  deriving DecidableEq, Repr

def wireVersion : String := "v1"

def checkHash (v : Value) : Schema.Checked Digest := do
  let s ← Schema.text v
  match Digest.parse s with
  | .ok d => return d
  | .error f => Schema.refuse "value_error" s!"Value error, {f.message}"

def checkSide (v : Value) : Schema.Checked Side :=
  (Schema.oneOf "left" "right" v).map fun isLeft => if isLeft then .left else .right

namespace WireStep

def modelName : String := "ProofStepSchema"

def ofValue (v : Value) : Schema.Checked WireStep := do
  let fields ← Schema.record modelName v
  let hash := Schema.required fields "hash" checkHash
  let side := Schema.required fields "side" checkSide
  match hash, side, Schema.unknownFields fields ["hash", "side"] with
  | .ok hash, .ok side, [] => return { hash, side }
  | hash, side, unknown => .error (Schema.issues hash ++ Schema.issues side ++ unknown)

def toValue (s : WireStep) : Value :=
  .object [("hash", .text s.hash.toHex), ("side", .text s.side.name)]

end WireStep

namespace WireProof

def modelName : String := "MerkleProofSchema"

def fieldNames : List String :=
  ["schema_version", "leaf_hash", "leaf_index", "siblings", "root"]

def ofValue (v : Value) : Schema.Checked WireProof := do
  let fields ← Schema.record modelName v
  let version := Schema.optional fields "schema_version" wireVersion Schema.text
  let leaf := Schema.required fields "leaf_hash" checkHash
  let index := Schema.required fields "leaf_index" Schema.natural
  let steps := Schema.optional fields "siblings" [] (Schema.list WireStep.ofValue)
  let root := Schema.required fields "root" checkHash
  match version, leaf, index, steps, root, Schema.unknownFields fields fieldNames with
  | .ok version, .ok leaf, .ok index, .ok steps, .ok root, [] =>
    return { version, leaf, index, steps, root }
  | version, leaf, index, steps, root, unknown =>
    .error (Schema.issues version ++ Schema.issues leaf ++ Schema.issues index ++
      Schema.issues steps ++ Schema.issues root ++ unknown)

def toValue (w : WireProof) : Value :=
  .object [("schema_version", .text w.version), ("leaf_hash", .text w.leaf.toHex),
    ("leaf_index", .int w.index), ("siblings", .list (w.steps.map WireStep.toValue)),
    ("root", .text w.root.toHex)]

def toProof (w : WireProof) : Proof where
  leaf := w.leaf
  index := w.index
  steps := w.steps.map fun s => { hash := s.hash, side := s.side }
  root := w.root

end WireProof

namespace Proof

def toWire (p : Proof) : WireProof where
  version := wireVersion
  leaf := p.leaf
  index := p.index
  steps := p.steps.map fun s => { hash := s.hash, side := s.side }
  root := p.root

def toValue (p : Proof) : Value :=
  p.toWire.toValue

/-- A proof as JSON text. Its index has to be a number that can be written. -/
def toJson (p : Proof) (layout : Json.Layout) : Except Failure String :=
  if p.toValue.isWritable then .ok (Json.write layout p.toValue)
  else .error (.badValue Numeral.unwritableText)

def ofValue (v : Value) : Except Fault Proof :=
  match WireProof.ofValue v with
  | .ok w => .ok w.toProof
  | .error issues =>
    .error (.unreadable s!"Invalid Merkle proof data: {issues.length} error(s)"
      [("errors", .list (issues.map fun i => .text i.message))])

/-- Reads a proof from JSON text. An integer with too many digits and containers within too many
others are not faults of the library's. -/
def ofJson (s : String) : Except Failure Proof :=
  match Json.parse s with
  | .error (.tooLong digits) => .error (.badValue (Numeral.tooLongText digits))
  | .error (.tooDeep container) => .error (.tooDeep (Json.Refusal.tooDeep container).message)
  | .error r => .error (.fault (.unreadable s!"Proof is not valid JSON: {r.message}" []))
  | .ok (.object fields) => Except.widen (ofValue (.object fields))
  | .ok _ => .error (.fault (.unreadable "Proof JSON must be an object" []))

end Proof

end Attest.Merkle
