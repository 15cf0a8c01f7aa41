import Attest.Decimal
import Attest.Text.Integer

/-!
# Data of any kind

Settings, proofs and error details arrive as data whose kind is not known beforehand. Objects keep
the order of their fields; a field that is set again keeps its place and takes the new value.
-/

namespace Attest

inductive Value where
  | null
  | bool (b : Bool)
  | int (n : Int)
  | float (x : Binary64)
  | text (s : String)
  | list (items : List Value)
  | object (fields : List (String × Value))
  deriving Repr, Inhabited

/-- Fields in order, at most one of each name. -/
abbrev Fields := List (String × Value)

namespace Fields

def get? (fields : Fields) (name : String) : Option Value :=
  List.lookup name fields

/-- Sets a field: in its place if it is there, else at the end. -/
def set (fields : Fields) (name : String) (v : Value) : Fields :=
  match fields with
  | [] => [(name, v)]
  | (n, w) :: rest => if n = name then (n, v) :: rest else (n, w) :: set rest name v

/-- The fields of a list of pairs, a later pair winning over an earlier one of its name. -/
def ofPairs (pairs : List (String × Value)) : Fields :=
  pairs.foldl (fun fields (name, v) => set fields name v) []

end Fields

namespace Value

def kind : Value → String
  | null => "NoneType"
  | bool _ => "bool"
  | int _ => "int"
  | float _ => "float"
  | text _ => "str"
  | list _ => "list"
  | object _ => "dict"

/-- Whether a value counts as given: it is not null, false, zero or empty. -/
def isGiven : Value → Bool
  | null => false
  | bool b => b
  | int n => n ≠ 0
  | float x => !x.isZero
  | text s => !s.isEmpty
  | list items => !items.isEmpty
  | object fields => !fields.isEmpty

def showFloat (x : Binary64) : String :=
  match Decimal.write? x with
  | some s => s
  | none =>
    match x.datum with
    | .infinite negative => if negative then "-inf" else "inf"
    | _ => "nan"

mutual

def quoted : Value → String
  | null => "None"
  | bool b => if b then "True" else "False"
  | int n => toString n
  | float x => showFloat x
  | text s => Quoted.encode s
  | list items => "[" ++ String.intercalate ", " (quotedItems items) ++ "]"
  | object fields => "\x7b" ++ String.intercalate ", " (quotedFields fields) ++ "\x7d"

def quotedItems : List Value → List String
  | [] => []
  | v :: rest => v.quoted :: quotedItems rest

def quotedFields : List (String × Value) → List String
  | [] => []
  | (name, v) :: rest => (Quoted.encode name ++ ": " ++ v.quoted) :: quotedFields rest

end

/-- A value put into running text: a text stands for itself, anything else as it is shown. -/
def plain : Value → String
  | text s => s
  | v => v.quoted

mutual

/-- Whether a value can be written: all numbers in it can. -/
def isWritable : Value → Bool
  | int n => Numeral.isWritable n
  | list items => areWritable items
  | object fields => haveWritable fields
  | _ => true

def areWritable : List Value → Bool
  | [] => true
  | v :: rest => v.isWritable && areWritable rest

def haveWritable : List (String × Value) → Bool
  | [] => true
  | (_, v) :: rest => v.isWritable && haveWritable rest

end

/-- Words that name a value, or what is said where the value cannot be written. -/
def tell (v : Value) (words : String) : String :=
  if v.isWritable then words else Numeral.unwritableText

end Value

end Attest
