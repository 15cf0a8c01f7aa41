import Attest.Fault
import Attest.Text.Utf8
import Attest.Yaml.Fault

/-!
# Failures

Whatever stops an operation: a fault that the library pronounces, or data, names or files that are
not what the operation needs. The constructors tell the reasons apart; the text of each is final.
-/

namespace Attest

/-- How access to a file can go wrong. -/
inductive FileProblem where
  | absent
  | denied
  | occupied
  | notFolder
  | isFolder
  | nameTooLong
  deriving DecidableEq, Repr

namespace FileProblem

def number : FileProblem → Nat
  | absent => 2
  | denied => 13
  | occupied => 17
  | notFolder => 20
  | isFolder => 21
  | nameTooLong => 36

def words : FileProblem → String
  | absent => "No such file or directory"
  | denied => "Permission denied"
  | occupied => "File exists"
  | notFolder => "Not a directory"
  | isFolder => "Is a directory"
  | nameTooLong => "File name too long"

def name : FileProblem → String
  | absent => "FileNotFoundError"
  | denied => "PermissionError"
  | occupied => "FileExistsError"
  | notFolder => "NotADirectoryError"
  | isFolder => "IsADirectoryError"
  | nameTooLong => "OSError"

def text (p : FileProblem) : String :=
  s!"[Errno {p.number}] {p.words}"

/-- What is said of a problem with the file at `path`. -/
def message (p : FileProblem) (path : String) : String :=
  s!"{p.text}: {Quoted.encode path}"

end FileProblem

inductive Failure where
  /-- A refusal of the library's own. -/
  | fault (f : Fault)
  /-- Data of the right type that is not acceptable. -/
  | badValue (message : String)
  /-- Bytes that are no UTF-8. -/
  | badText (f : Utf8.Fault)
  /-- Text without bytes to stand for it. -/
  | unwritable (message : String)
  /-- Text that is no JSON. -/
  | badJson (message : String)
  /-- Text that is no YAML. -/
  | badYaml (f : Yaml.Fault)
  /-- Data of the wrong type. -/
  | badType (message : String)
  /-- Something asked of data that its type does not have. -/
  | noAttribute (message : String)
  /-- A number outside the range of a fixed-width field. -/
  | overflow (message : String)
  /-- A word that is not among those known. -/
  | badKey (message : String)
  /-- A place outside of a sequence. -/
  | badIndex (message : String)
  /-- Data in data, too many times over. -/
  | tooDeep (message : String)
  /-- A file that cannot be used. -/
  | file (problem : FileProblem) (message : String)
  /-- A user without a folder of their own. -/
  | noHome
  /-- A failure of a sort that is not the library's, with the name that it goes by. -/
  | foreign (name message : String)

namespace Failure

/-- What is said of a failure. Of text that is no YAML nothing is said. -/
def message : Failure → String
  | fault f => f.message
  | badText f => f.message
  | badYaml _ => ""
  | noHome => "Could not determine home directory."
  | badValue m | unwritable m | badJson m | badType m | noAttribute m | overflow m | badKey m
  | badIndex m | tooDeep m | file _ m | foreign _ m => m

def name : Failure → String
  | fault f => f.kind.name
  | badValue _ => "ValueError"
  | badText _ => "UnicodeDecodeError"
  | unwritable _ => "UnicodeEncodeError"
  | badJson _ => "JSONDecodeError"
  | badYaml f => f.name
  | badType _ => "TypeError"
  | noAttribute _ => "AttributeError"
  | overflow _ => "OverflowError"
  | badKey _ => "KeyError"
  | badIndex _ => "IndexError"
  | tooDeep _ => "RecursionError"
  | file problem _ => problem.name
  | noHome => "RuntimeError"
  | foreign name _ => name

/-- Whether the failure is a refusal of a value rather than of its type. -/
def isValueRefusal : Failure → Bool
  | fault f => f.kind.isValueRefusal
  | badValue _ | badText _ | unwritable _ | badJson _ => true
  | _ => false

def isFileProblem : Failure → Bool
  | file .. => true
  | _ => false

/-- An attribute that data of kind `kind` does not have. -/
def lacksAttribute (kind name : String) : Failure :=
  noAttribute s!"{Quoted.encode kind} object has no attribute {Quoted.encode name}"

def incomparable (operator left right : String) : Failure :=
  badType (s!"{Quoted.encode operator} not supported between instances of " ++
    s!"{Quoted.encode left} and {Quoted.encode right}")

def unsupported (operator left right : String) : Failure :=
  badType (s!"unsupported operand type(s) for {operator}: " ++
    s!"{Quoted.encode left} and {Quoted.encode right}")

def tooManyLevels : Failure :=
  tooDeep "maximum recursion depth exceeded"

/-- Calls in calls, more often than there is room for. -/
def tooManyCalls : Failure :=
  tooDeep "maximum recursion depth exceeded while calling a Python object"

def notCount (kind : String) : Failure :=
  badType s!"{Quoted.encode kind} object cannot be interpreted as an integer"

def uncountable (kind : String) : Failure :=
  overflow s!"cannot fit {Quoted.encode kind} into an index-sized integer"

def notPath (kind : String) : Failure :=
  badType s!"expected str, bytes or os.PathLike object, not {kind}"

/-- An argument whose name a function does not know, or whose value it has already: `taken` are the
names of those. -/
def unfitArgument (function : String) (taken : List String) (name : String) : Failure :=
  let trouble :=
    if taken.contains name then "multiple values for argument" else "an unexpected keyword argument"
  badType s!"{function}() got {trouble} {Quoted.encode name}"

def ofFile (problem : FileProblem) (path : String) : Failure :=
  file problem (problem.message path)

def noFolder : Failure :=
  file .absent FileProblem.absent.text

/-- A fault whose message names a value, which has to be one that can be written. -/
def naming (v : Value) (f : Fault) : Failure :=
  if v.isWritable then fault f else badValue Numeral.unwritableText

def outOfRange (index : Value) (leafCount : Nat) (details : Fields) : Failure :=
  naming index (.indexOutOfRange index leafCount details)

/-- Halves of characters, the first of them at index `start` of a text, have no bytes to stand for
them. -/
def withoutBytes (start : Nat) : List Nat → Failure
  | [n] => unwritable <|
    "'utf-8' codec can't encode character '\\u" ++ String.ofList (Quoted.hexDigits 4 n) ++
      s!"' in position {start}: surrogates not allowed"
  | halves => unwritable <|
    s!"'utf-8' codec can't encode characters in position {start}-{start + halves.length - 1}: " ++
      "surrogates not allowed"

end Failure

/-- The UTF-8 bytes of a text, which may hold no halves of characters. -/
def Bytes.encode (s : String) : Except Failure Bytes :=
  if Text.hasHalf s then
    let start := (s.toList.takeWhile fun c => (Text.half? c).isNone).length
    .error (.withoutBytes start (Text.leadingHalves (s.toList.drop start)))
  else .ok (ofText s)

instance : Coe Fault Failure := ⟨Failure.fault⟩

def Except.widen {α : Type} (x : Except Fault α) : Except Failure α :=
  x.mapError Failure.fault

end Attest
