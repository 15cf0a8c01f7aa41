import Attest.Binary64
import Attest.Text.Integer

/-!
# Decimal fractions

The reader of floating-point numbers: blanks around, one sign, decimal digits of any script with a
point among, before or behind them, single underscores between digits, and an exponent. Infinity and
the number that is no number are written as words.
-/

namespace Attest.Scientific

/-- A text with the decimal digits of all scripts written as those of ASCII. -/
def plainDigits (cs : List Char) : List Char :=
  cs.map fun c =>
    match Numeral.digit? c with
    | some d => Char.ofNat (48 + d)
    | none => c

def hasStrayUnderscore (afterDigit : Bool) : List Char → Bool
  | [] => false
  | '_' :: rest =>
    !(afterDigit && (rest.head?.map Char.isDigit).getD false) || hasStrayUnderscore false rest
  | c :: rest => hasStrayUnderscore c.isDigit rest

def exponent? : List Char → Option Int
  | [] => some 0
  | e :: rest =>
    let (negative, ds) := Numeral.splitSign rest
    if (e = 'e' || e = 'E') && !ds.isEmpty && ds.all Char.isDigit then
      some (Numeral.signed negative (Numeral.ofChars ds))
    else none

def ofPoint (negative : Bool) (cs : List Char) : Option Binary64 :=
  let whole := cs.takeWhile Char.isDigit
  let rest := cs.dropWhile Char.isDigit
  let (fraction, rest) := match rest with
    | '.' :: rest => (rest.takeWhile Char.isDigit, rest.dropWhile Char.isDigit)
    | rest => ([], rest)
  let digits := whole ++ fraction
  if digits.isEmpty then none
  else (exponent? rest).map fun e =>
    .ofDecimal negative (Numeral.ofChars digits) (e - fraction.length)

def parse (s : String) : Option Binary64 :=
  let cs := plainDigits (Text.trim s.toList)
  if hasStrayUnderscore false cs then none
  else
    let (negative, body) := Numeral.splitSign (cs.filter (· ≠ '_'))
    match String.ofList (body.map Char.toLower) with
    | "inf" | "infinity" => some (.infinity negative)
    | "nan" => some .nan
    | _ => ofPoint negative body

def refusal (s : String) : String :=
  "could not convert string to float: " ++ Quoted.encode s

end Attest.Scientific
