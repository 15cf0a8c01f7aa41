import Attest.Value

/-!
# Faults

A fault is a refusal that the library itself pronounces. It has a kind, a code for programs, a
message for people, details by name and a flag that tells whether trying again may help. Each kind
but the general one has a code of its own, so a kind is found again from its code
(`Kind.ofCode_code`).
-/

namespace Attest

namespace Fault

inductive Kind where
  | general
  | emptyInput
  | indexOutOfRange
  | invalidHash
  | invalidKey
  | invalidSignature
  | address
  | serialization
  | proofRejected
  deriving DecidableEq, Repr

/-- The code of a kind; general faults choose their code, and this is the one they have otherwise.
-/
def Kind.code : Kind → String
  | general => "KAIBLOCK_ERROR"
  | emptyInput => "EMPTY_INPUT"
  | indexOutOfRange => "INDEX_OUT_OF_RANGE"
  | invalidHash => "INVALID_HASH"
  | invalidKey => "INVALID_KEY"
  | invalidSignature => "INVALID_SIGNATURE"
  | address => "ADDRESS_ERROR"
  | serialization => "SERIALIZATION_ERROR"
  | proofRejected => "MERKLE_PROOF_INVALID"

def Kind.registered : List Kind :=
  [emptyInput, indexOutOfRange, invalidHash, invalidKey, invalidSignature, address, serialization,
    proofRejected]

/-- The kind that a code stands for; codes of no kind stand for general faults. -/
def Kind.ofCode (code : String) : Kind :=
  (Kind.registered.find? fun k => k.code = code).getD .general

def Kind.name : Kind → String
  | general => "KaiblockException"
  | emptyInput => "EmptyInputException"
  | indexOutOfRange => "IndexOutOfRangeException"
  | invalidHash => "InvalidHashException"
  | invalidKey => "InvalidKeyException"
  | invalidSignature => "InvalidSignatureException"
  | address => "AddressException"
  | serialization => "SerializationException"
  | proofRejected => "MerkleVerificationException"

/-- Whether a fault of the kind is a refusal of a value, as opposed to a position or a verdict. -/
def Kind.isValueRefusal : Kind → Bool
  | general | indexOutOfRange | proofRejected => false
  | _ => true

theorem Kind.ofCode_code {k : Kind} (h : k ≠ .general) : Kind.ofCode k.code = k := by
  cases k <;> first | exact absurd rfl h | decide

end Fault

/-- A refusal that the library pronounces. -/
structure Fault where
  kind : Fault.Kind
  code : String
  message : String
  details : Fields
  retryable : Bool
  deriving Repr

namespace Fault

def ofKind (kind : Kind) (message : String) (details : Fields) : Fault :=
  { kind, code := kind.code, message, details, retryable := false }

def emptyInput : Fault :=
  ofKind .emptyInput "Cannot build a Merkle tree from an empty item list" []

/-- There is no leaf at an index, which is one that can be written. -/
def indexOutOfRange (index : Value) (leafCount : Nat) (details : Fields) : Fault :=
  ofKind .indexOutOfRange s!"Leaf index {index.plain} out of range for {leafCount} leaves"
    ((details.set "index" index).set "leaf_count" (.int leafCount))

def invalidHash (message : String) (details : Fields) : Fault :=
  ofKind .invalidHash message details

def invalidKey (message : String) : Fault :=
  ofKind .invalidKey message []

def invalidSignature (message : String) : Fault :=
  ofKind .invalidSignature message []

def badAddress (message : String) (address : String) : Fault :=
  ofKind .address message [("address", .text address)]

def unreadable (message : String) (details : Fields) : Fault :=
  ofKind .serialization message details

/-- A proof that was required to hold and does not. An index of null is none. -/
def proofRejected (leafIndex expectedRoot : Value) : Fault :=
  ofKind .proofRejected "Merkle proof does not reproduce the expected root"
    (("expected_root", expectedRoot) ::
      match leafIndex with
      | .null => []
      | v => [("leaf_index", v)])

def shown (f : Fault) : String :=
  s!"{f.kind.name}(code={Quoted.encode f.code}, message={Quoted.encode f.message})"

end Fault

end Attest
