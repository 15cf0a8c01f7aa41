import Attest.Failure
import Attest.Sha256

/-!
# Digests

A digest is exactly 32 bytes. Digests are ordered byte by byte, which is the order of the big-endian
numbers they spell. This file reads and writes them as bytes, hexadecimal text and numbers, and
makes them from messages by single and double SHA-256.
-/

namespace Attest

structure Digest where
  bytes : Bytes
  length_bytes : bytes.length = 32
  deriving DecidableEq, Repr

namespace Digest

def size : Nat := 32

def bitSize : Nat := 256

def maxNat : Nat := Nat.pow 2 256 - 1

instance : LT Digest := ⟨fun a b => a.bytes < b.bytes⟩

instance : LE Digest := ⟨fun a b => a.bytes ≤ b.bytes⟩

instance (a b : Digest) : Decidable (a < b) :=
  inferInstanceAs (Decidable (a.bytes < b.bytes))

instance (a b : Digest) : Decidable (a ≤ b) :=
  inferInstanceAs (Decidable (a.bytes ≤ b.bytes))

/-! ## Bytes -/

def ofBytes (bs : Bytes) : Except Fault Digest :=
  if h : bs.length = 32 then .ok ⟨bs, h⟩
  else .error (.invalidHash s!"Expected {size} bytes, got {bs.length}"
    [("length", .int bs.length)])

/-- Data other than bytes never is a digest. -/
def refuse (v : Value) : Fault :=
  .invalidHash s!"Hash256 requires bytes, got {v.kind}" []

def zero : Digest :=
  ⟨List.replicate 32 0, by simp⟩

/-! ## Numbers -/

def toNat (d : Digest) : Nat :=
  Bytes.toNat d.bytes

/-- The digest that spells the low 256 bits of `n`. -/
def ofNat (n : Nat) : Digest :=
  ⟨Bytes.bigEndian 32 n, by simp⟩

def outOfRange (v : Value) : Failure :=
  .naming v (.invalidHash s!"Integer out of range for a 256-bit hash: {v.plain}" [])

def ofInt (n : Int) : Except Failure Digest :=
  if 0 ≤ n ∧ n ≤ maxNat then .ok (ofNat n.toNat) else .error (outOfRange (.int n))

def isZero (d : Digest) : Bool :=
  d.bytes.all (· = 0)

def leadingZeroBits (d : Digest) : Nat :=
  bitSize - Bytes.bitLength d.toNat

/-! ## Text -/

def toHex (d : Digest) : String :=
  Hex.encode d.bytes

def toHexMarked (d : Digest) : String :=
  Hex.encodeMarked d.bytes

def shown (d : Digest) : String :=
  s!"Hash256({d.toHex})"

def parse (s : String) : Except Fault Digest :=
  let cs := Hex.unmark s.toList
  if cs.length = 64 then
    match Hex.decode cs with
    | .error i => .error (.invalidHash s!"Invalid hex characters in hash: {Hex.complaint i}" [])
    | .ok bs =>
      match ofBytes bs with
      | .error f => .error (.invalidHash s!"Invalid hex characters in hash: {f.message}" [])
      | .ok d => .ok d
  else
    .error (.invalidHash s!"Hex hash must be 64 characters, got {cs.length}"
      [("length", .int cs.length)])

def ofValue : Value → Except Fault Digest
  | .text s => parse s
  | v => .error (.invalidHash s!"Expected hex string, got {v.kind}" [])

end Digest

/-! ## Hashing -/

def sha256 (message : Bytes) : Digest :=
  ⟨Sha256.hash message, by simp⟩

/-- SHA-256 twice: of the message, then of the resulting 32 bytes. -/
def doubleSha256 (message : Bytes) : Digest :=
  sha256 (sha256 message).bytes

/-- The digest of two digests in order: double SHA-256 of their 64 bytes. -/
def Digest.join (left right : Digest) : Digest :=
  doubleSha256 (left.bytes ++ right.bytes)

/-- The SHA-256 digest of several pieces, taken as one message. -/
def sha256Pieces (pieces : List Bytes) : Digest :=
  sha256 pieces.flatten

end Attest
