import Attest.Bytes
import Attest.Text.Hex

/-!
# Strict UTF-8

Reads bytes as UTF-8. Only the shortest form of each character is accepted, and none of the
surrogates; the first fault is answered with the range of bytes it concerns.
-/

namespace Attest.Utf8

/-- What is wrong with a byte sequence. -/
inductive Reason where
  | badStart
  | badContinuation
  | cutShort
  deriving DecidableEq, Repr

/-- The first fault: what is wrong, the first byte concerned, its index, and how many bytes are
concerned. -/
structure Fault where
  reason : Reason
  byte : UInt8
  start : Nat
  count : Nat
  deriving DecidableEq, Repr

def isContinuation (b : UInt8) : Bool :=
  0x80 ≤ b && b < 0xc0

/-- Whether `b` may be the second byte after the first byte `lead`: the ranges are narrower where
a shorter form, a surrogate or a number above the last character would result. -/
def isSecond (lead b : UInt8) : Bool :=
  isContinuation b &&
    (if lead = 0xe0 then 0xa0 ≤ b
    else if lead = 0xed then b < 0xa0
    else if lead = 0xf0 then 0x90 ≤ b
    else if lead = 0xf4 then b < 0x90
    else true)

/-- The number of bytes of a character that starts with `lead`, and the bits `lead` gives it. -/
def leadInfo (lead : UInt8) : Option (Nat × Nat) :=
  if lead < 0x80 then some (1, lead.toNat)
  else if lead < 0xc2 then none
  else if lead < 0xe0 then some (2, lead.toNat - 0xc0)
  else if lead < 0xf0 then some (3, lead.toNat - 0xe0)
  else if lead < 0xf5 then some (4, lead.toNat - 0xf0)
  else none

/-- The bits of the continuation bytes, `read` of the character's bytes being read already and
`left` still to come. The error tells why it stops and how many bytes it concerns. -/
def continuation (read left bits : Nat) : Bytes → Except (Reason × Nat) Nat
  | bs =>
    match left, bs with
    | 0, _ => .ok bits
    | _ + 1, [] => .error (.cutShort, read)
    | left + 1, b :: bs =>
      if isContinuation b then continuation (read + 1) left (64 * bits + (b.toNat - 0x80)) bs
      else .error (.badContinuation, read)

/-- One character after its first byte `lead`, with the number of bytes it has. -/
def character (lead : UInt8) (bs : Bytes) : Except (Reason × Nat) (Nat × Char) :=
  match leadInfo lead with
  | none => .error (.badStart, 1)
  | some (size, bits) =>
    match size, bs with
    | 1, _ => .ok (1, Char.ofNat bits)
    | _, [] => .error (.cutShort, 1)
    | _, b :: rest =>
      if isSecond lead b then do
        let bits ← continuation 2 (size - 2) (64 * bits + (b.toNat - 0x80)) rest
        return (size, Char.ofNat bits)
      else .error (.badContinuation, 1)

/-- Reads bytes, the first of them having index `start`. `skip` bytes at the front belong to a
character that is read already. -/
def decodeFrom (start skip : Nat) : Bytes → Except Fault (List Char)
  | [] => .ok []
  | b :: bs =>
    match skip with
    | skip + 1 => decodeFrom (start + 1) skip bs
    | 0 =>
      match character b bs with
      | .error (reason, count) => .error { reason, byte := b, start, count }
      | .ok (size, c) => do
        let cs ← decodeFrom (start + 1) (size - 1) bs
        return c :: cs

def decode (bs : Bytes) : Except Fault (List Char) :=
  decodeFrom 0 0 bs

def Reason.text : Reason → String
  | .badStart => "invalid start byte"
  | .badContinuation => "invalid continuation byte"
  | .cutShort => "unexpected end of data"

def Fault.message (f : Fault) : String :=
  if f.count = 1 then
    "'utf-8' codec can't decode byte 0x" ++ Hex.encode [f.byte] ++
      s!" in position {f.start}: {f.reason.text}"
  else
    s!"'utf-8' codec can't decode bytes in position {f.start}-{f.start + f.count - 1}: " ++
      f.reason.text

end Attest.Utf8
