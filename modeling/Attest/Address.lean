import Attest.Base58
import Attest.Text.Case

/-!
# Addresses

An address is 20 bytes of a public key's hash. It is written in Base58 with a checksum, or as marked
hexadecimal text, where the case of the letters may carry a checksum: a letter is upper case when
the bit for its place is set in the hash of the lower-case text. Marked text in one case carries
none.
-/

namespace Attest

inductive AddressKind where
  | base58
  | hexChecksum
  | hex
  deriving DecidableEq, Repr

namespace AddressKind

def name : AddressKind → String
  | base58 => "base58"
  | hexChecksum => "hex-checksum"
  | hex => "hex"

def all : List AddressKind := [base58, hexChecksum, hex]

def ofName? (name : String) : Option AddressKind :=
  all.find? fun k => k.name = name

def mark : AddressKind → String
  | base58 => "1"
  | hexChecksum | hex => "0x"

def refusal (v : Value) : String :=
  v.tell s!"{v.quoted} is not a valid AddressType"

def ofValue (v : Value) : Except String AddressKind :=
  match v with
  | .text s =>
    match ofName? s with
    | some k => .ok k
    | none => .error (refusal v)
  | _ => .error (refusal v)

end AddressKind

/-- An address: its written form, its bytes and the text itself. -/
structure Address where
  kind : AddressKind
  data : Bytes
  encoded : String
  deriving DecidableEq, Repr

namespace Address

def dataSize : Nat := 20

def version : Bytes := [0]

/-- The text after the mark `0x`, if it has that mark. -/
def body? : List Char → Option (List Char)
  | '0' :: 'x' :: rest => some rest
  | _ => none

/-- The form that a text seems to be written in. -/
def detect (s : String) : Option AddressKind :=
  match body? s.toList with
  | some body =>
    if body.length = 2 * dataSize && Text.isMixedCase body then some .hexChecksum else some .hex
  | none =>
    if !s.isEmpty && s.toList.all (Base58.value? · |>.isSome) then some .base58 else none

/-- Whether the letter at place `i` is upper case by the mask: the high bit of the half byte for its
place. -/
def maskBit (mask : Bytes) (i : Nat) : Bool :=
  (mask.getD (i / 2) 0) &&& (if i % 2 = 0 then 0x80 else 0x08) != 0

/-- Sets the case of letters by the mask, `i` being the place of the first character. -/
def applyMask (mask : Bytes) (i : Nat) : List Char → List Char
  | [] => []
  | c :: rest =>
    (if c.isAlpha && maskBit mask i then c.toUpper else c) :: applyMask mask (i + 1) rest

/-- The case that the checksum gives to a lower-case text. -/
def checksumCase (lower : List Char) : List Char :=
  applyMask (sha256 (Bytes.ofText (String.ofList lower))).bytes 0 lower

def ofDigest (d : Digest) (kind : AddressKind) : Address :=
  match kind with
  | .base58 =>
    let data := d.bytes.take dataSize
    { kind, data, encoded := Base58.checkEncode data version }
  | .hexChecksum =>
    let data := d.bytes.drop (Digest.size - dataSize)
    { kind, data, encoded := String.ofList ('0' :: 'x' :: checksumCase (Hex.digits data)) }
  | .hex =>
    let data := d.bytes.drop (Digest.size - dataSize)
    { kind, data, encoded := String.ofList ('0' :: 'x' :: Hex.digits data) }

def ofPublicKey (key : Bytes) (kind : AddressKind) : Address :=
  ofDigest (sha256 key) kind

def parseBase58 (s : String) : Except Fault Address := do
  let (v, data) ← Base58.checkDecode s
  if v ≠ version ∨ data.length ≠ dataSize then
    throw (.badAddress "Invalid Base58 address payload" s)
  return { kind := .base58, data, encoded := s }

def parseHex (s : String) (kind : AddressKind) : Except Fault Address :=
  let body := s.toList.drop 2
  match Hex.decode body with
  | .error i => .error (.badAddress s!"Invalid hex address: {Hex.complaint i}" s)
  | .ok data =>
    if kind = .hexChecksum then
      if checksumCase (body.map Char.toLower) = body then .ok { kind, data, encoded := s }
      else .error (.badAddress "Invalid address checksum" s)
    else if data.length = dataSize then .ok { kind, data, encoded := s }
    else .error (.badAddress s!"Hex address must be {dataSize} bytes, got {data.length}" s)

def parse (s : String) : Except Fault Address :=
  match detect s with
  | none => .error (.badAddress "Unknown address format" s)
  | some .base58 => parseBase58 s
  | some kind => parseHex s kind

def validate (s : String) : Except Fault AddressKind :=
  (parse s).map (·.kind)

end Address

end Attest
