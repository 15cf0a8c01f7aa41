import Attest.Digest

/-!
# Base58

A byte string is read as a big-endian number and written in base 58, without the letters that are
easily confused; each zero byte at the front is written as the digit one. The checked form puts a
version byte before the payload and four bytes of a double hash after it.
-/

namespace Attest.Base58

def alphabet : List Char :=
  "123456789ABCDEFGHJKLMNPQRSTUVWXYZabcdefghijkmnopqrstuvwxyz".toList

def value? (c : Char) : Option Nat :=
  alphabet.idxOf? c

def digit (n : Nat) : Char :=
  alphabet.getD n '1'

/-- The digits of `n`, most significant first, followed by `rest`; zero has no digits. -/
def digitsOnto (n : Nat) (rest : List Char) : List Char :=
  if n = 0 then rest else digitsOnto (n / 58) (digit (n % 58) :: rest)
termination_by n
decreasing_by omega

def encode (bs : Bytes) : String :=
  String.ofList
    (List.replicate (bs.takeWhile (· = 0)).length '1' ++ digitsOnto (Bytes.toNat bs) [])

/-- The number that a text spells, or its first character that is no digit. -/
def number (n : Nat) : List Char → Except Char Nat
  | [] => .ok n
  | c :: rest =>
    match value? c with
    | none => .error c
    | some d => number (58 * n + d) rest

def decode (s : String) : Except Fault Bytes :=
  match number 0 s.toList with
  | .error c =>
    .error (.badAddress s!"Invalid Base58 character: {Quoted.encode (String.singleton c)}" s)
  | .ok n =>
    .ok (List.replicate (s.toList.takeWhile (· = '1')).length 0 ++ Bytes.ofNat n)

def checksumSize : Nat := 4

/-- The first four bytes of the double hash. -/
def checksum (bs : Bytes) : Bytes :=
  (doubleSha256 bs).bytes.take checksumSize

/-- Writes a version and a payload with their checksum. -/
def checkEncode (payload version : Bytes) : String :=
  let versioned := version ++ payload
  encode (versioned ++ checksum versioned)

def checkDecode (s : String) : Except Fault (Bytes × Bytes) := do
  let raw ← decode s
  if raw.length < checksumSize + 1 then
    throw (.badAddress "Base58Check string too short" s)
  let versioned := raw.take (raw.length - checksumSize)
  let check := raw.drop (raw.length - checksumSize)
  if checksum versioned ≠ check then
    throw (.badAddress "Invalid Base58Check checksum" s)
  return (versioned.take 1, versioned.drop 1)

end Attest.Base58
