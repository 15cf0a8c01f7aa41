import Attest.Json.Writer
import Attest.Yaml.Scalar

/-!
# Data of YAML

What a document stands for. The keys of a map are scalars, a later entry winning over an earlier one
of its key.
-/

namespace Attest.Yaml

inductive Data where
  | scalar (s : Scalar)
  | list (items : List Data)
  | map (entries : List (Scalar × Data))
  | set (members : List Scalar)
  deriving Repr

namespace Scalar

def number? : Scalar → Option Int
  | bool b => some (if b then 1 else 0)
  | int n => some n
  | float x => x.toInt?
  | _ => none

/-- Whether two scalars count as one key: they are the same, or the same number. -/
def isSameKey (a b : Scalar) : Bool :=
  a = b || (a.number?.isSome && a.number? = b.number?)

def kind : Scalar → String
  | null => "NoneType"
  | bool _ => "bool"
  | int _ => "int"
  | float _ => "float"
  | text _ => "str"
  | date _ => "datetime.date"
  | time _ => "datetime.datetime"
  | bytes _ => "bytes"

/-- A scalar as a value of settings. Times and bytes are written out. -/
def toValue : Scalar → Value
  | null => .null
  | bool b => .bool b
  | int n => .int n
  | float x => .float x
  | text s | date s | time s => .text s
  | bytes bs => .text (Hex.encode bs)

def toName : Scalar → String
  | null => "null"
  | bool b => if b then "true" else "false"
  | int n => toString n
  | float x => String.ofList (Json.writeFloat x)
  | text s | date s | time s => s
  | bytes bs => Hex.encode bs

def isText : Scalar → Bool
  | text _ => true
  | _ => false

end Scalar

namespace Data

def get? (entries : List (Scalar × Data)) (name : String) : Option Data :=
  entries.lookup (.text name)

/-! ## Data as values -/

def kind : Data → String
  | scalar s => s.kind
  | list _ => "list"
  | map _ => "dict"
  | set _ => "set"

/-- Whether a piece of data counts as given: it is not null, false, zero or empty. -/
def isGiven : Data → Bool
  | scalar s => s.toValue.isGiven
  | list items => !items.isEmpty
  | map entries => !entries.isEmpty
  | set members => !members.isEmpty

mutual

def toValue : Data → Value
  | scalar s => s.toValue
  | list items => .list (toItems items)
  | map entries => .object (Fields.ofPairs (toPairs entries))
  | set members => .list (members.map Scalar.toValue)

def toItems : List Data → List Value
  | [] => []
  | d :: rest => d.toValue :: toItems rest

def toPairs : List (Scalar × Data) → List (String × Value)
  | [] => []
  | (k, d) :: rest => (k.toName, d.toValue) :: toPairs rest

end

end Data

end Attest.Yaml
