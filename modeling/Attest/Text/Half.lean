/-!
# Halves of characters

A character beyond 16 bits may be written as two numbers of 16 bits, its halves. A half by itself is
no character, but a text may hold one: it stands in the text as a code point far from those in use,
by which it is told from all others.
-/

namespace Attest.Text

def isFirstHalf (n : Nat) : Bool :=
  0xd800 ≤ n && n < 0xdc00

def isSecondHalf (n : Nat) : Bool :=
  0xdc00 ≤ n && n < 0xe000

def ofHalves (first second : Nat) : Char :=
  Char.ofNat (0x10000 + 0x400 * (first - 0xd800) + (second - 0xdc00))

/-- How far the code point that holds a half is from the half. -/
def halfOffset : Nat := 0xd0000

/-- What holds a half in a text. -/
def half (n : Nat) : Char :=
  Char.ofNat (halfOffset + n)

def half? (c : Char) : Option Nat :=
  let n := c.toNat - halfOffset
  if isFirstHalf n || isSecondHalf n then some n else none

def leadingHalves (cs : List Char) : List Nat :=
  (cs.takeWhile fun c => (half? c).isSome).filterMap half?

/-- Whether a text holds halves of characters. -/
def hasHalf (s : String) : Bool :=
  s.toList.any fun c => (half? c).isSome

end Attest.Text
