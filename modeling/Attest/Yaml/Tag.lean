import Attest.Text.Hex
import Attest.Yaml.Stamp

/-!
# Tags of YAML

A tag tells the kind of a node. A scalar whose kind is left to its form has the kind that the form
shows: a word for truth or nothing, a number, a time, or else a text. One line end after a form does
not count.
-/

namespace Attest.Yaml

inductive Tag where
  | null
  | bool
  | int
  | float
  | text
  | time
  | bytes
  | merge
  | value
  | list
  | map
  | set
  | pairs
  | other (name : String)
  deriving DecidableEq, Repr

namespace Tag

def usualStart : String := "tag:yaml.org,2002:"

def usual : List (String × Tag) :=
  [("null", null), ("bool", bool), ("int", int), ("float", float), ("str", text),
    ("timestamp", time), ("binary", bytes), ("merge", merge), ("value", value), ("seq", list),
    ("map", map), ("set", set), ("omap", pairs), ("pairs", pairs)]

def ofName (name : String) : Tag :=
  ((usual.map fun (ending, tag) => (usualStart ++ ending, tag)).lookup name).getD (other name)

end Tag

/-! ## Forms of plain scalars -/

namespace Form

/-- The three ways to write a word: small, with a capital, and in capitals. -/
def casings (word : String) : List String :=
  [word, word.capitalize, word.toUpper]

def truthWords : List (String × Bool) :=
  [("yes", true), ("no", false), ("true", true), ("false", false), ("on", true), ("off", false)]

def isTruth (s : String) : Bool :=
  truthWords.any fun (word, _) => (casings word).contains s

def isNull (s : String) : Bool :=
  s.isEmpty || s = "~" || (casings "null").contains s

def unsigned : List Char → List Char
  | c :: rest => if c = '-' || c = '+' then rest else c :: rest
  | [] => []

/-- Whether a character is an underscore or satisfies `p`. -/
def orUnderscore (p : Char → Bool) (c : Char) : Bool :=
  c = '_' || p c

def afterDigits : List Char → Option (List Char)
  | c :: rest => if c.isDigit then some (rest.dropWhile (orUnderscore Char.isDigit)) else none
  | [] => none

def isTens (c : Char) : Bool :=
  '0' ≤ c && c ≤ '5'

/-- What follows digits to base sixty, each behind a colon. -/
def afterSixties : List Char → List Char
  | ':' :: c :: d :: rest =>
    if isTens c && d.isDigit then afterSixties rest
    else if c.isDigit then afterSixties (d :: rest)
    else ':' :: c :: d :: rest
  | [':', c] => if c.isDigit then [] else [':', c]
  | cs => cs

def isExponent : List Char → Bool
  | [] => true
  | e :: sign :: rest =>
    (e = 'e' || e = 'E') && (sign = '-' || sign = '+') && !rest.isEmpty && rest.all Char.isDigit
  | _ => false

def isFraction : List Char → Bool
  | '.' :: rest => isExponent (rest.dropWhile (orUnderscore Char.isDigit))
  | _ => false

/-- Whether a text is a floating-point number: digits with a point among or before them, digits to
base sixty with a point behind them, or a word. -/
def isFloat (cs : List Char) : Bool :=
  let body := unsigned cs
  let isPlain := match afterDigits body with
    | some rest =>
      isFraction rest || (rest.head? = some ':' && match afterSixties rest with
        | '.' :: rest => rest.all (orUnderscore Char.isDigit)
        | _ => false)
    | none => false
  let isBare := match cs with
    | '.' :: c :: _ => c.isDigit && isFraction cs
    | _ => false
  isPlain || isBare || [".inf", ".Inf", ".INF"].contains (String.ofList body) ||
    [".nan", ".NaN", ".NAN"].contains (String.ofList cs)

/-- Whether a text has at least one character, and all of them are underscores or satisfy `p`. -/
def isRun (p : Char → Bool) (cs : List Char) : Bool :=
  !cs.isEmpty && cs.all (orUnderscore p)

def isInteger (cs : List Char) : Bool :=
  match unsigned cs with
  | ['0'] => true
  | '0' :: 'b' :: rest => isRun (fun c => c = '0' || c = '1') rest
  | '0' :: 'x' :: rest => isRun (fun c => (Hex.value? c).isSome) rest
  | '0' :: rest => isRun (fun c => '0' ≤ c && c ≤ '7') rest
  | cs =>
    match afterDigits cs with
    | some rest => rest.isEmpty || (afterSixties rest).isEmpty
    | none => false

end Form

def Form.dropLineFeed (s : String) : String :=
  if s.toList.getLast? = some '\n' then String.ofList s.toList.dropLast else s

/-- The marks that no plain scalar begins with; as a whole scalar each is kept for the language. -/
def Form.reserved : List String :=
  ["!", "&", "*"]

def Tag.ofForm (s : String) : Tag :=
  let body := Form.dropLineFeed s
  let cs := body.toList
  if body.isEmpty then (if s.isEmpty then .null else .text)
  else if Form.isTruth body then .bool
  else if Form.isNull body then .null
  else if Form.isFloat cs then .float
  else if Form.isInteger cs then .int
  else if Stamp.isForm cs then .time
  else if body = "<<" then .merge
  else if body = "=" then .value
  else if Form.reserved.contains body then .other (Tag.usualStart ++ "yaml")
  else .text

end Attest.Yaml
