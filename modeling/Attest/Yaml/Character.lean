/-!
# Characters of YAML

The classes of characters that the tokens of a document are told apart by. The end of the text
counts with the ends of lines.
-/

namespace Attest.Yaml

def isAllowed (c : Char) : Bool :=
  let n := c.toNat
  n = 9 || n = 10 || n = 13 || (0x20 ≤ n && n ≤ 0x7e) || n = 0x85 || (0xa0 ≤ n && n ≤ 0xfffd) ||
    0x10000 ≤ n

def isBreak (c : Char) : Bool :=
  c = '\r' || c = '\n' || c = '\u0085' || c = '\u2028' || c = '\u2029'

def isLineEnd : Option Char → Bool
  | none => true
  | some c => isBreak c

def isSpaceOrEnd (c : Option Char) : Bool :=
  c = some ' ' || isLineEnd c

def isBlankOrEnd (c : Option Char) : Bool :=
  c = some '\t' || isSpaceOrEnd c

def isNameChar (c : Char) : Bool :=
  c.isAlphanum || c = '-' || c = '_'

def isOneOf (listed : String) : Option Char → Bool
  | some c => listed.toList.contains c
  | none => false

end Attest.Yaml
