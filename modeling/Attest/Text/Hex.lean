import Attest.Bytes

/-!
# Hexadecimal text

Writing is lower case, two digits a byte. Reading takes digits of either case in pairs and skips
ASCII blanks between pairs, but not inside one; a text that cannot be read is answered with the
place where reading stopped.
-/

namespace Attest.Hex

def digit (n : Nat) : Char :=
  if n < 10 then Char.ofNat (48 + n) else Char.ofNat (87 + n)

def value? (c : Char) : Option Nat :=
  let n := c.toNat
  if 48 ≤ n ∧ n ≤ 57 then some (n - 48)
  else if 97 ≤ n ∧ n ≤ 102 then some (n - 87)
  else if 65 ≤ n ∧ n ≤ 70 then some (n - 55)
  else none

def pair (b : UInt8) : List Char :=
  [digit (b.toNat / 16), digit (b.toNat % 16)]

def digits (bs : Bytes) : List Char :=
  bs.flatMap pair

def encode (bs : Bytes) : String :=
  String.ofList (digits bs)

/-- A byte string as lower-case digits behind the mark `0x`. -/
def encodeMarked (bs : Bytes) : String :=
  "0x" ++ encode bs

/-- The blanks that may stand between two pairs of digits. -/
def isBlank (c : Char) : Bool :=
  c = ' ' || (9 ≤ c.toNat && c.toNat ≤ 13)

/-- Reads pairs of digits, `start` being the index of the first character; the error is the index
of the character that stopped it, or of the end of the text where a pair is cut short. -/
def decodeFrom (start : Nat) : List Char → Except Nat Bytes
  | [] => .ok []
  | c :: rest =>
    if isBlank c then decodeFrom (start + 1) rest
    else match value? c, rest with
      | none, _ => .error start
      | some _, [] => .error (start + 1)
      | some high, d :: rest =>
        match value? d with
        | none => .error (start + 1)
        | some low => do
          let bs ← decodeFrom (start + 2) rest
          return UInt8.ofNat (16 * high + low) :: bs

/-- Reads a text of digits. A text with a character outside ASCII is refused at the first of them,
whatever stands before it. -/
def decode (cs : List Char) : Except Nat Bytes :=
  match cs.findIdx? (fun c => 128 ≤ c.toNat) with
  | some i => .error i
  | none => decodeFrom 0 cs

/-- What is said of a text whose reading stopped at index `i`. -/
def complaint (i : Nat) : String :=
  s!"non-hexadecimal number found in fromhex() arg at position {i}"

/-- The text without a leading `0x` or `0X`. -/
def unmark : List Char → List Char
  | '0' :: 'x' :: rest => rest
  | '0' :: 'X' :: rest => rest
  | cs => cs

/-- Why a text is no sequence of hexadecimal pairs. -/
inductive Refusal where
  | oddLength (length : Nat)
  | badCharacter (index : Nat)
  deriving DecidableEq, Repr

def Refusal.message : Refusal → String
  | oddLength length => s!"Hex string must have even length, got length {length}"
  | badCharacter index => s!"Invalid hex characters in string: {complaint index}"

/-- Reads a text of hexadecimal pairs, with or without a mark before them. -/
def parse (s : String) : Except Refusal Bytes :=
  let cs := unmark s.toList
  if cs.length % 2 ≠ 0 then .error (.oddLength cs.length)
  else (decode cs).mapError .badCharacter

end Attest.Hex
