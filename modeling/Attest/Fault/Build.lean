import Attest.Failure
import Attest.Fault.Report

/-!
# Building faults from named arguments

Each kind of fault has its own parameters. Arguments that no parameter takes, and required
parameters without an argument, are refused before anything is built. Of which type an argument is
does not matter then: what is built is a draft, and only its report is checked.
-/

namespace Attest.Fault

/-- A parameter and whether it has to be given. -/
structure Parameter where
  name : String
  isRequired : Bool

def Kind.parameters : Kind → List Parameter
  | .general => [⟨"message", true⟩, ⟨"code", false⟩, ⟨"details", false⟩, ⟨"retryable", false⟩]
  | .emptyInput => [⟨"message", false⟩, ⟨"details", false⟩]
  | .indexOutOfRange => [⟨"index", true⟩, ⟨"leaf_count", true⟩, ⟨"details", false⟩]
  | .address => [⟨"message", true⟩, ⟨"address", false⟩, ⟨"details", false⟩]
  | .proofRejected => [⟨"message", true⟩, ⟨"leaf_index", false⟩, ⟨"details", false⟩]
  | _ => [⟨"message", true⟩, ⟨"details", false⟩]

/-- Names in a row: two are joined by a word, more by commas and a word. -/
def nameList : List String → String
  | [] => ""
  | [a] => a
  | [a, b] => s!"{a} and {b}"
  | names => String.intercalate ", " (names.dropLast) ++ ", and " ++ names.getLastD ""

/-- The parameter that stands for the fault itself and has its argument already. -/
def itself : String := "self"

def checkArguments (kind : Kind) (arguments : Fields) : Except Failure Unit := do
  let parameters := kind.parameters
  if let some (name, _) := arguments.find? fun (name, _) => !(parameters.any (·.name = name)) then
    throw (.unfitArgument s!"{kind.name}.__init__" [itself] name)
  let missing := parameters.filter fun p => p.isRequired && (arguments.get? p.name).isNone
  if !missing.isEmpty then
    let plural := if missing.length = 1 then "" else "s"
    let names := nameList (missing.map fun p => Quoted.encode p.name)
    throw (.badType
      (s!"{kind.name}.__init__() missing {missing.length} required positional argument{plural}: " ++
        names))

/-- A fault whose parts may be of any type. -/
structure Draft where
  kind : Kind
  code : Value
  message : Value
  details : Value
  retryable : Value
  deriving Repr

/-- The details given; none, null and empty details are the same. -/
def detailsArgument (arguments : Fields) : Value :=
  match arguments.get? "details" with
  | none => .object []
  | some v => if v.isGiven then v else .object []

/-- Adds a detail. Only an object takes one. -/
def addDetail (details : Value) (name : String) (v : Value) : Except Failure Value :=
  match details with
  | .object fields => .ok (.object (Fields.set fields name v))
  | .list _ => .error (.badType "list indices must be integers or slices, not str")
  | details =>
    .error (.badType s!"{Quoted.encode details.kind} object does not support item assignment")

/-- Adds a detail unless its argument is null or not given. -/
def addGiven (details : Value) (arguments : Fields) (name : String) : Except Failure Value :=
  match arguments.get? name with
  | none | some .null => .ok details
  | some v => addDetail details name v

def build (kind : Kind) (arguments : Fields) : Except Failure Draft := do
  checkArguments kind arguments
  let argument (name : String) (default : Value) := (arguments.get? name).getD default
  let details := detailsArgument arguments
  let message := argument "message" .null
  let draft (message details : Value) : Draft :=
    { kind, code := .text kind.code, message, details, retryable := .bool false }
  match kind with
  | .indexOutOfRange =>
    let index := argument "index" .null
    let leafCount := argument "leaf_count" .null
    let details ← addDetail (← addDetail details "index" index) "leaf_count" leafCount
    if !(index.isWritable && leafCount.isWritable) then throw (.badValue Numeral.unwritableText)
    let message := s!"Leaf index {index.plain} out of range for {leafCount.plain} leaves"
    return draft (.text message) details
  | .emptyInput => return draft (argument "message" (.text emptyInput.message)) details
  | .general =>
    return { draft message details with
      code := argument "code" (.text kind.code), retryable := argument "retryable" (.bool false) }
  | .address => return draft message (← addGiven details arguments "address")
  | .proofRejected => return draft message (← addGiven details arguments "leaf_index")
  | _ => return draft message details

/-- The report of a draft, whose parts have to be of the types that a report has. -/
def Draft.report (d : Draft) : Schema.Checked Report :=
  Report.ofFields [("code", d.code), ("message", d.message), ("details", d.details),
    ("retryable", d.retryable)]

def Draft.fault (d : Draft) (r : Report) : Fault :=
  { r.toFault with kind := d.kind }

end Attest.Fault
