import Attest.Schema

/-!
# Reports

A report is a fault in the form of plain data: code, message, details and flag. Its kind is not part
of it but follows from the code, so a fault whose code is its kind's own comes back whole from its
report (`toFault_report`), and a report always does (`report_toFault`).
-/

namespace Attest

structure Report where
  code : String
  message : String
  details : Fields
  retryable : Bool
  deriving Repr

def Fault.report (f : Fault) : Report :=
  { code := f.code, message := f.message, details := f.details, retryable := f.retryable }

namespace Report

def toFault (r : Report) : Fault :=
  { kind := .ofCode r.code, code := r.code, message := r.message, details := r.details,
    retryable := r.retryable }

theorem report_toFault (r : Report) : r.toFault.report = r := rfl

theorem toFault_report {f : Fault} (h : Fault.Kind.ofCode f.code = f.kind) :
    f.report.toFault = f := by
  cases f
  simp_all [Fault.report, toFault]

def modelName : String := "KaiblockError"

def checkDetails : Value → Schema.Checked Fields
  | .object fields => .ok fields
  | _ => Schema.refuse "dict_type" "Input should be a valid dictionary"

def ofFields (fields : Fields) : Schema.Checked Report :=
  let code := Schema.required fields "code" Schema.text
  let message := Schema.required fields "message" Schema.text
  let details := Schema.optional fields "details" [] checkDetails
  let retryable := Schema.optional fields "retryable" false Schema.boolean
  match code, message, details, retryable,
    Schema.unknownFields fields ["code", "message", "details", "retryable"] with
  | .ok code, .ok message, .ok details, .ok retryable, [] =>
    .ok { code, message, details, retryable }
  | code, message, details, retryable, unknown =>
    .error (Schema.issues code ++ Schema.issues message ++ Schema.issues details ++
      Schema.issues retryable ++ unknown)

def set (r : Report) (name : String) (v : Value) : Schema.Checked Report :=
  Schema.inside (.field name) <|
    match name with
    | "code" => return { r with code := ← Schema.text v }
    | "message" => return { r with message := ← Schema.text v }
    | "details" => return { r with details := ← checkDetails v }
    | "retryable" => return { r with retryable := ← Schema.boolean v }
    | _ => Schema.refuse "no_such_attribute" s!"Object has no attribute {Quoted.encode name}"

/-- Why an assignment is refused: for the value, or for the name. -/
inductive Refusal where
  | invalid (issues : List Schema.Issue)
  | failure (f : Failure)

def readOnly : List String :=
  ["model_extra", "model_fields_set", "__fields_set__"]

/-- Assigns to a name of a report. A name that begins with an underscore is kept for other uses, and
what is assigned to it does not show. -/
def assign (r : Report) (name v : Value) : Except Refusal Report :=
  match name with
  | .text name =>
    if readOnly.contains name then
      .error (.failure (.noAttribute
        s!"property {Quoted.encode name} of {Quoted.encode modelName} object has no setter"))
    else if name = "__class__" then
      .error (.failure (.badType
        s!"__class__ must be set to a class, not {Quoted.encode v.kind} object"))
    else if name = "__dict__" && !(v matches .object _) then
      .error (.failure (.badType
        s!"__dict__ must be set to a dictionary, not a {Quoted.encode v.kind}"))
    else if name.toList.head? = some '_' then .ok r
    else (r.set name v).mapError .invalid
  | name =>
    .error (.failure (.badType s!"attribute name must be string, not {Quoted.encode name.kind}"))

def fields (r : Report) : Fields :=
  [("code", .text r.code), ("message", .text r.message), ("details", .object r.details),
    ("retryable", .bool r.retryable)]

end Report

end Attest
