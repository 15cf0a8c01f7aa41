import Attest.Failure
import Attest.Text.Integer

/-!
# Checking data

Data from outside is checked field by field, and every issue is reported with its place. The checks
are lenient: numbers may be given as text, whole floating-point numbers or booleans, and booleans as
words or numbers.
-/

namespace Attest.Schema

/-- A step on the way to a piece of data. -/
inductive Place where
  | field (name : String)
  | item (index : Nat)
  deriving DecidableEq, Repr

/-- What is wrong with a piece of data, and where it stands. -/
structure Issue where
  kind : String
  place : List Place
  message : String
  deriving DecidableEq, Repr

abbrev Checked (α : Type) := Except (List Issue) α

def refuse {α : Type} (kind message : String) : Checked α :=
  .error [{ kind, place := [], message }]

def inside {α : Type} (place : Place) (x : Checked α) : Checked α :=
  x.mapError fun issues => issues.map fun i => { i with place := place :: i.place }

def issues {α : Type} : Checked α → List Issue
  | .error is => is
  | .ok _ => []

def text : Value → Checked String
  | .text s => .ok s
  | _ => refuse "string_type" "Input should be a valid string"

/-- A text of which the characters are looked at. It must not hold halves of them. -/
def characters (s : String) : Checked String :=
  if Text.hasHalf s then
    refuse "string_unicode"
      "Input should be a valid string, unable to parse raw data as a unicode string"
  else .ok s

def oneOf (first second : String) (v : Value) : Checked Bool := do
  match v with
  | .text s =>
    let s ← characters s
    if s = first then .ok true
    else if s = second then .ok false
    else refuse "literal_error" s!"Input should be {Quoted.encode first} or {Quoted.encode second}"
  | _ => refuse "literal_error" s!"Input should be {Quoted.encode first} or {Quoted.encode second}"

/-! ## Whole numbers -/

def numeralLimit : Nat := 4300

/-- The number that a numeral in its usual form spells: a minus sign or none, and digits of which
the first is no zero unless it is the only one. The digits at the front must not be too many,
whatever follows them. -/
def usualNumeral (cs : List Char) : Except Numeral.Refusal Int :=
  let (negative, body) := match cs with
    | '-' :: rest => (true, rest)
    | cs => (false, cs)
  let digits := body.takeWhile Char.isDigit
  if digits.isEmpty || (digits.head? = some '0' && digits ≠ ['0']) then .error .malformed
  else if numeralLimit < digits.length then .error (.tooLong digits.length)
  else if digits.length < body.length then .error .malformed
  else .ok (Numeral.signed negative (Numeral.ofChars digits))

/-- Drops leading zeros, and underscores between them, but keeps one character of a text or a whole
part that would be left without any. A minus sign may follow the zeros. -/
def dropZeros : List Char → Option (List Char)
  | '0' :: rest =>
    let tail := rest.dropWhile fun c => c = '0' || c = '_'
    match tail with
    | [] => some [rest.getLastD '0']
    | '.' :: _ => some ((('0' :: rest).take (rest.length - tail.length + 1)).getLastD '0' :: tail)
    | c :: _ => if c.isDigit || c = '-' then some tail else none
  | cs => some cs

def dropFraction (cs : List Char) : List Char :=
  let whole := cs.takeWhile (· ≠ '.')
  match cs.dropWhile (· ≠ '.') with
  | _ :: zeros => if !zeros.isEmpty && zeros.all (· = '0') then whole else cs
  | [] => cs

def hasStrayUnderscore : List Char → Bool
  | [] => false
  | ['_'] => true
  | '_' :: '_' :: _ => true
  | _ :: rest => hasStrayUnderscore rest

def dropUnderscores (cs : List Char) : List Char :=
  if cs.head? = some '_' || hasStrayUnderscore cs then cs else cs.filter (· ≠ '_')

/-- A numeral in its usual form, made of one with a plus sign, zeros at its front, a fraction of
zeros or underscores. A digit has to come first, or behind the sign. -/
def usualForm (cs : List Char) : Option (List Char) :=
  let (negative, body) := Numeral.splitSign cs
  if (body.head?.map Char.isDigit).getD false then
    (dropZeros body).map fun body =>
      let digits := dropUnderscores (dropFraction body)
      if negative then '-' :: digits else digits
  else none

def integerOfText (s : String) : Checked Int :=
  let cs := Text.trim s.toList
  let result := match usualNumeral cs, usualForm cs with
    | .error .malformed, some cs => usualNumeral cs
    | result, _ => result
  result.mapError fun
    | .malformed =>
      [{ kind := "int_parsing", place := [],
         message := "Input should be a valid integer, unable to parse string as an integer" }]
    | .tooLong _ =>
      [{ kind := "int_parsing_size", place := [],
         message := "Unable to parse input string as an integer, exceeded maximum size" }]

def integerOfFloat (x : Binary64) : Checked Int :=
  if !x.isFinite then refuse "finite_number" "Input should be a finite number"
  else match x.toInt? with
    | none =>
      refuse "int_from_float"
        "Input should be a valid integer, got a number with a fractional part"
    | some n =>
      if n.natAbs < Nat.pow 2 63 then .ok n
      else refuse "int_parsing_size"
        "Unable to parse input string as an integer, exceeded maximum size"

def integer : Value → Checked Int
  | .int n => .ok n
  | .bool b => .ok (if b then 1 else 0)
  | .float x => integerOfFloat x
  | .text s => do integerOfText (← characters s)
  | _ => refuse "int_type" "Input should be a valid integer"

def natural (v : Value) : Checked Nat := do
  let n ← integer v
  if 0 ≤ n then return n.toNat
  refuse "greater_than_equal" "Input should be greater than or equal to 0"

/-! ## Booleans -/

def yesWords : List String := ["1", "t", "y", "on", "yes", "true"]

def noWords : List String := ["0", "f", "n", "off", "no", "false"]

/-- Data that has to be a boolean. Only whole numbers of 64 bits with a sign are looked at. -/
def boolean (v : Value) : Checked Bool :=
  let unreadable : Checked Bool :=
    refuse "bool_parsing" "Input should be a valid boolean, unable to interpret input"
  let unfit : Checked Bool := refuse "bool_type" "Input should be a valid boolean"
  let limit : Int := Nat.pow 2 63
  match v with
  | .bool b => .ok b
  | .int n =>
    if n = 0 then .ok false else if n = 1 then .ok true
    else if -limit ≤ n && n < limit then unreadable else unfit
  | .float x =>
    match x.toInt? with
    | some n =>
      if n = 0 then .ok false else if n = 1 then .ok true
      else if -limit < n && n < limit then unreadable else unfit
    | none => unfit
  | .text s =>
    let lower := String.ofList (s.toList.map Char.toLower)
    if yesWords.contains lower then .ok true
    else if noWords.contains lower then .ok false
    else unreadable
  | _ => unfit

/-! ## Objects and lists -/

/-- Data that has to be an object of the model `name`. The names of all fields are looked at. -/
def record (name : String) : Value → Checked Fields
  | .object fields => do
    let _ ← fields.mapM fun (name, _) => characters name
    return fields
  | _ => refuse "model_type" s!"Input should be a valid dictionary or instance of {name}"

def required {α : Type} (fields : Fields) (name : String) (check : Value → Checked α) :
    Checked α :=
  inside (.field name) <|
    match fields.get? name with
    | none => refuse "missing" "Field required"
    | some v => check v

def optional {α : Type} (fields : Fields) (name : String) (default : α)
    (check : Value → Checked α) : Checked α :=
  match fields.get? name with
  | none => .ok default
  | some v => inside (.field name) (check v)

/-- The issues of fields that are none of `known`, in order. -/
def unknownFields (fields : Fields) (known : List String) : List Issue :=
  (fields.filter fun (name, _) => !known.contains name).map fun (name, _) =>
    { kind := "extra_forbidden", place := [.field name],
      message := "Extra inputs are not permitted" }

/-- Checks each item of a list, `index` being the first one's; all issues are kept. -/
def items {α : Type} (check : Value → Checked α) (index : Nat) : List Value → Checked (List α)
  | [] => .ok []
  | v :: rest =>
    match inside (.item index) (check v), items check (index + 1) rest with
    | .ok a, .ok as => .ok (a :: as)
    | first, others => .error (issues first ++ issues others)

def list {α : Type} (check : Value → Checked α) : Value → Checked (List α)
  | .list vs => items check 0 vs
  | _ => refuse "list_type" "Input should be a valid list"

end Attest.Schema
