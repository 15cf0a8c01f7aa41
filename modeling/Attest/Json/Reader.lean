import Attest.Value
import Attest.Text.Integer

/-!
# Reading JSON

The reader takes a whole text. It also accepts `NaN`, `Infinity` and `-Infinity`; of two fields with
one name the later one counts; numbers without fraction and exponent are integers of any size up to
a limit on their digits. A text that is refused is answered with what was expected and where, unless
it holds too many lists and objects within one another.
-/

namespace Attest.Json

inductive Container where
  | object
  | array
  deriving DecidableEq, Repr

def Container.name : Container → String
  | object => "object"
  | array => "array"

/-- The number of containers that may stand within one another. -/
def depthLimit : Nat := 990

/-- Why reading stops: a text that is not JSON, with the number of characters left at the place, an
integer with too many digits, or a container within too many others. -/
inductive Stop where
  | malformed (words : String) (left : Nat)
  | tooLong (digits : Nat)
  | tooDeep (container : Container)
  deriving DecidableEq, Repr

def expecting {α : Type} (words : String) (cs : List Char) : Except Stop α :=
  .error (.malformed words cs.length)

def isSpace (c : Char) : Bool :=
  c = ' ' || c = '\t' || c = '\n' || c = '\r'

def skip (cs : List Char) : List Char :=
  cs.dropWhile isSpace

/-! ## Texts -/

/-- Adds a pending first half of a pair, whose other half did not follow, to what is read. -/
def flush (high : Option Nat) (acc : List Char) : List Char :=
  (high.map Text.half).toList ++ acc

def escaped? (c : Char) : Option Char :=
  if c = Quoted.double || c = Quoted.backslash || c = '/' then some c
  else if c = 'b' then some '\x08'
  else if c = 'f' then some '\x0c'
  else if c = 'n' then some '\n'
  else if c = 'r' then some '\r'
  else if c = 't' then some '\t'
  else none

def fourDigits? (a b c d : Char) : Option Nat := do
  return 4096 * (← Hex.value? a) + 256 * (← Hex.value? b) + 16 * (← Hex.value? c) + (← Hex.value? d)

/-- Adds the 16-bit unit `v` to what is read: a first half of a pair waits for its second half. -/
def addUnit (high : Option Nat) (acc : List Char) (v : Nat) : Option Nat × List Char :=
  if Text.isFirstHalf v then (some v, flush high acc)
  else if Text.isSecondHalf v then
    match high with
    | some h => (none, Text.ofHalves h v :: acc)
    | none => (none, Text.half v :: acc)
  else (none, Char.ofNat v :: flush high acc)

/-- The characters of a text up to its closing quote. `opening` is what is left at its opening
quote, `high` a pending first half of a pair and `acc` what is read, last first. -/
def readText (opening : List Char) (high : Option Nat) (acc : List Char) :
    List Char → Except Stop (String × List Char)
  | [] => expecting "Unterminated string starting at" opening
  | '\x22' :: rest => .ok (String.ofList (flush high acc).reverse, rest)
  | '\x5c' :: 'u' :: a :: b :: c :: d :: e :: rest =>
    match fourDigits? a b c d with
    | none => expecting "Invalid \\uXXXX escape" ('u' :: a :: b :: c :: d :: e :: rest)
    | some v =>
      let (high, acc) := addUnit high acc v
      readText opening high acc (e :: rest)
  | ['\x5c'] => expecting "Unterminated string starting at" opening
  | '\x5c' :: c :: rest =>
    if c = 'u' then expecting "Invalid \\uXXXX escape" (c :: rest)
    else match escaped? c with
      | none => expecting "Invalid \\escape" ('\x5c' :: c :: rest)
      | some x => readText opening none (x :: flush high acc) rest
  | c :: rest =>
    if c.toNat < 32 then expecting "Invalid control character at" (c :: rest)
    else readText opening none (c :: flush high acc) rest

/-! ## Numbers -/

/-- The digits before the point: a zero alone, or digits that start with another one. -/
def wholeDigits : List Char → Option (List Char × List Char)
  | [] => none
  | c :: rest =>
    if c = '0' then some (['0'], rest)
    else if c.isDigit then some (c :: rest.takeWhile Char.isDigit, rest.dropWhile Char.isDigit)
    else none

/-- The digits after a point, none when no digit follows the point. -/
def fractionDigits : List Char → List Char × List Char
  | '.' :: d :: rest =>
    if d.isDigit then (d :: rest.takeWhile Char.isDigit, rest.dropWhile Char.isDigit)
    else ([], '.' :: d :: rest)
  | cs => ([], cs)

def exponentPart (cs : List Char) : Option Int × List Char :=
  match cs with
  | [] => (none, cs)
  | c :: rest =>
    if c = 'e' || c = 'E' then
      let (negative, digits) := match rest with
        | '-' :: r => (true, r)
        | '+' :: r => (false, r)
        | r => (false, r)
      let ds := digits.takeWhile Char.isDigit
      if ds.isEmpty then (none, cs)
      else
        let n : Int := Numeral.ofChars ds
        (some (if negative then -n else n), digits.dropWhile Char.isDigit)
    else (none, cs)

def readNumber (cs : List Char) : Except Stop (Value × List Char) :=
  let (negative, digits) := match cs with
    | '-' :: rest => (true, rest)
    | rest => (false, rest)
  match wholeDigits digits with
  | none => expecting "Expecting value" cs
  | some (whole, rest) =>
    let (fraction, rest) := fractionDigits rest
    let (exponent, rest) := exponentPart rest
    if fraction.isEmpty && exponent.isNone then
      if Numeral.digitLimit < whole.length then .error (.tooLong whole.length)
      else
        let n : Int := Numeral.ofChars whole
        .ok (.int (if negative then -n else n), rest)
    else
      let scale := exponent.getD 0 - fraction.length
      .ok (.float (.ofDecimal negative (Numeral.ofChars (whole ++ fraction)) scale), rest)

/-! ## Values -/

def wordValues : List (List Char × Value) :=
  [("null".toList, .null), ("true".toList, .bool true), ("false".toList, .bool false),
    ("NaN".toList, .float .nan), ("Infinity".toList, .float (.infinity false)),
    ("-Infinity".toList, .float (.infinity true))]

/-- The rest of `cs` after `word`, if `cs` begins with it. -/
def dropWord? : List Char → List Char → Option (List Char)
  | [], cs => some cs
  | _ :: _, [] => none
  | w :: ws, c :: cs => if w = c then dropWord? ws cs else none

def readWord? (cs : List Char) : Option (Value × List Char) :=
  wordValues.findSome? fun (word, v) => (dropWord? word cs).map fun rest => (v, rest)

mutual

/-- A value in which at most `depth` containers stand within one another. The fuel bounds the number
of tokens; twice the number of characters is more than enough. -/
def readValue (depth : Nat) : (fuel : Nat) → List Char → Except Stop (Value × List Char)
  | 0, cs => expecting "Expecting value" cs
  | fuel + 1, cs =>
    match cs with
    | '\x22' :: rest => do
      let (s, rest) ← readText cs none [] rest
      return (.text s, rest)
    | '\x7b' :: rest =>
      if depth = 0 then .error (.tooDeep .object)
      else
        match skip rest with
        | '\x7d' :: rest => .ok (.object [], rest)
        | rest => readFields (depth - 1) fuel [] rest
    | '[' :: rest =>
      if depth = 0 then .error (.tooDeep .array)
      else
        match skip rest with
        | ']' :: rest => .ok (.list [], rest)
        | rest => readItems (depth - 1) fuel [] rest
    | cs =>
      match readWord? cs with
      | some found => .ok found
      | none => readNumber cs

/-- The fields of an object from the name of one to the closing brace; `acc` holds those read. -/
def readFields (depth : Nat) : (fuel : Nat) → Fields → List Char → Except Stop (Value × List Char)
  | 0, _, cs => expecting "Expecting value" cs
  | fuel + 1, acc, cs =>
    match cs with
    | '\x22' :: rest => do
      let (name, rest) ← readText cs none [] rest
      match skip rest with
      | ':' :: rest =>
        let (v, rest) ← readValue depth fuel (skip rest)
        let acc := acc.set name v
        match skip rest with
        | '\x7d' :: rest => .ok (.object acc, rest)
        | ',' :: rest => readFields depth fuel acc (skip rest)
        | rest => expecting "Expecting ',' delimiter" rest
      | rest => expecting "Expecting ':' delimiter" rest
    | cs => expecting "Expecting property name enclosed in double quotes" cs

/-- The items of a list from one of them to the closing bracket; `acc` holds those read, last
first. -/
def readItems (depth : Nat) : (fuel : Nat) → List Value → List Char →
    Except Stop (Value × List Char)
  | 0, _, cs => expecting "Expecting value" cs
  | fuel + 1, acc, cs => do
    let (v, rest) ← readValue depth fuel cs
    match skip rest with
    | ']' :: rest => .ok (.list (v :: acc).reverse, rest)
    | ',' :: rest => readItems depth fuel (v :: acc) (skip rest)
    | rest => expecting "Expecting ',' delimiter" rest

end

def readWhole (cs : List Char) : Except Stop Value := do
  let (v, rest) ← readValue depthLimit (2 * cs.length + 2) (skip cs)
  match skip rest with
  | [] => return v
  | rest => expecting "Extra data" rest

inductive Refusal where
  | malformed (words : String) (index line column : Nat)
  | tooLong (digits : Nat)
  | tooDeep (container : Container)
  deriving DecidableEq, Repr

/-- The line and the column of the place before which the characters `before` stand, both from one.
-/
def lineAndColumn (before : List Char) : Nat × Nat :=
  (before.count '\n' + 1, (before.reverse.takeWhile (· ≠ '\n')).length + 1)

def Stop.inText (cs : List Char) : Stop → Refusal
  | tooLong digits => .tooLong digits
  | tooDeep container => .tooDeep container
  | malformed words left =>
    let index := cs.length - left
    let (line, column) := lineAndColumn (cs.take index)
    .malformed words index line column

/-- Reads a text. A byte order mark at its start is refused. -/
def parse (s : String) : Except Refusal Value :=
  let cs := s.toList
  match cs with
  | '\ufeff' :: _ => .error (.malformed "Unexpected UTF-8 BOM (decode using utf-8-sig)" 0 1 1)
  | cs => (readWhole cs).mapError (Stop.inText cs)

def Refusal.message : Refusal → String
  | malformed words index line column => s!"{words}: line {line} column {column} (char {index})"
  | tooLong digits => Numeral.tooLongText digits
  | tooDeep container =>
    "maximum recursion depth exceeded while decoding a JSON " ++ container.name ++
      " from a unicode string"

end Attest.Json
