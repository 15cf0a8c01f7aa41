/-!
# Lines of a text

A text file is read with every line end turned into a line feed (`normalise`). A text is then cut
at every character that ends a line, of which there are ten besides the pair of carriage return and
line feed (`split`).
-/

namespace Attest.Text

/-- Turns each carriage return, alone or with a line feed after it, into one line feed. -/
def normaliseLineEnds : List Char → List Char
  | [] => []
  | '\r' :: '\n' :: rest => '\n' :: normaliseLineEnds rest
  | c :: rest => (if c = '\r' then '\n' else c) :: normaliseLineEnds rest

def isLineEnd (c : Char) : Bool :=
  let n := c.toNat
  (10 ≤ n && n ≤ 13) || (0x1c ≤ n && n ≤ 0x1e) || n = 0x85 || n = 0x2028 || n = 0x2029

/-- Cuts at line ends, `line` being what has been read of the current line, last character first. -/
def splitLinesFrom (line : List Char) : List Char → List (List Char)
  | [] => if line.isEmpty then [] else [line.reverse]
  | '\r' :: '\n' :: rest => line.reverse :: splitLinesFrom [] rest
  | c :: rest =>
    if isLineEnd c then line.reverse :: splitLinesFrom [] rest
    else splitLinesFrom (c :: line) rest

/-- The lines of a text, without their ends; a line end at the end of the text opens no new line. -/
def splitLines (s : String) : List String :=
  (splitLinesFrom [] s.toList).map String.ofList

end Attest.Text
