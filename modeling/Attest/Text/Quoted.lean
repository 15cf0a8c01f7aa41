import Attest.Text.Half
import Attest.Text.Hex
import Attest.Text.Printable

/-!
# Quoted text

A text is shown between single quotes, or between double quotes when it holds single quotes and no
double ones. Inside, the backslash and the closing quote are escaped, tab, line feed and carriage
return have their letters, and any other character that is not printable is given by its number in
two, four or eight hexadecimal digits.
-/

namespace Attest.Quoted

def single : Char := Char.ofNat 39

def double : Char := Char.ofNat 34

def backslash : Char := Char.ofNat 92

def quoteOf (cs : List Char) : Char :=
  if cs.contains single && !cs.contains double then double else single

/-- The lower-case hexadecimal digits of a number, `width` of them. -/
def hexDigits (width n : Nat) : List Char :=
  (List.range width).map fun i => Hex.digit (n / Nat.pow 16 (width - 1 - i) % 16)

/-- A character as it stands between quotes `quote`. -/
def escape (quote c : Char) : List Char :=
  if c = quote ∨ c = backslash then [backslash, c]
  else if c = '\t' then [backslash, 't']
  else if c = '\n' then [backslash, 'n']
  else if c = '\r' then [backslash, 'r']
  else if Text.isPrintable c then [c]
  else
    let n := (Text.half? c).getD c.toNat
    if n < 0x100 then backslash :: 'x' :: hexDigits 2 n
    else if n < 0x10000 then backslash :: 'u' :: hexDigits 4 n
    else backslash :: 'U' :: hexDigits 8 n

def encode (s : String) : String :=
  let cs := s.toList
  let quote := quoteOf cs
  String.ofList (quote :: cs.flatMap (escape quote) ++ [quote])

end Attest.Quoted
