import Attest.Environment
import Attest.Given
import Attest.Miner

/-!
# Settings

The settings of the library, in three sections and a place for anything else. Values read from data
are kept as they are, whatever their kind; what uses them checks them. Variables of the environment
override single settings.
-/

namespace Attest

structure Settings where
  difficultyBits : Value
  maxNonce : Value
  addressType : Value
  logLevel : Value
  logFile : Value
  extra : Value
  deriving Repr

namespace Settings

def default : Settings where
  difficultyBits := .int Miner.defaultBits
  maxNonce := .int Miner.defaultMaxNonce
  addressType := .text "base58"
  logLevel := .text "INFO"
  logFile := .null
  extra := .object []

def toValue (s : Settings) : Value :=
  .object [
    ("pow", .object [("difficulty_bits", s.difficultyBits), ("max_nonce", s.maxNonce)]),
    ("address", .object [("default_type", s.addressType)]),
    ("logging", .object [("level", s.logLevel), ("file", s.logFile)]),
    ("extra", s.extra)]

/-! ## Settings from data -/

/-- A section: its name in data, its name in messages and the names of its settings. -/
structure Section where
  field : String
  title : String
  names : List String

def powSection : Section := ⟨"pow", "PowConfig", ["difficulty_bits", "max_nonce"]⟩

def addressSection : Section := ⟨"address", "AddressConfig", ["default_type"]⟩

def loggingSection : Section := ⟨"logging", "LoggingConfig", ["level", "file"]⟩

def sections : List Section := [powSection, addressSection, loggingSection]

def Section.kindRefusal (s : Section) (kind : String) : Failure :=
  .badType s!"kaiblock.config.runtime.{s.title}() argument after ** must be a mapping, not {kind}"

def Section.nameRefusal (s : Section) (name : String) : Failure :=
  .unfitArgument s!"{s.title}.__init__" ["self"] name

/-- The settings that a section of data gives. A section without content gives none. -/
def Section.read (s : Section) (v : Value) : Except Failure Fields :=
  if !v.isGiven then .ok []
  else match v with
    | .object fields =>
      match fields.find? fun (name, _) => !s.names.contains name with
      | some (name, _) => .error (s.nameRefusal name)
      | none => .ok fields
    | v => .error (s.kindRefusal v.kind)

def ofSections (pow address logging : Fields) (extra : Value) : Settings where
  difficultyBits := (pow.get? "difficulty_bits").getD default.difficultyBits
  maxNonce := (pow.get? "max_nonce").getD default.maxNonce
  addressType := (address.get? "default_type").getD default.addressType
  logLevel := (logging.get? "level").getD default.logLevel
  logFile := (logging.get? "file").getD default.logFile
  extra

/-- Reads settings from data, which has to be an object. Fields that are no section are ignored. -/
def ofValue (v : Value) : Except Failure Settings :=
  match v with
  | .object fields => do
    let part (s : Section) := s.read ((Fields.get? fields s.field).getD (.object []))
    let pow ← part powSection
    let address ← part addressSection
    let logging ← part loggingSection
    return ofSections pow address logging ((Fields.get? fields "extra").getD (.object []))
  | v => .error (.lacksAttribute v.kind "get")

/-! ## Overrides -/

/-- The settings that the environment overrides. -/
structure Overrides where
  difficultyBits : Option Int
  maxNonce : Option Int
  addressType : Option String
  logLevel : Option String
  logFile : Option String
  deriving DecidableEq, Repr

def Overrides.ofEnvironment (env : Environment) : Except Failure Overrides := do
  let difficultyBits ← env.integer? Environment.difficultyBits
  let maxNonce ← env.integer? Environment.maxNonce
  return { difficultyBits, maxNonce
           addressType := env.given? Environment.addressType
           logLevel := env.given? Environment.logLevel
           logFile := env.given? Environment.logFile }

def Overrides.field (name : String) (v : Option Value) : Fields :=
  match v with
  | some v => [(name, v)]
  | none => []

def Overrides.part (name : String) (fields : Fields) : Fields :=
  if fields.isEmpty then [] else [(name, .object fields)]

def Overrides.toValue (o : Overrides) : Value :=
  let field := Overrides.field
  .object (
    part "pow" (field "difficulty_bits" (o.difficultyBits.map .int) ++
      field "max_nonce" (o.maxNonce.map .int)) ++
    part "address" (field "default_type" (o.addressType.map .text)) ++
    part "logging" (field "level" (o.logLevel.map .text) ++ field "file" (o.logFile.map .text)))

def Overrides.isEmpty (o : Overrides) : Bool :=
  o.difficultyBits.isNone && o.maxNonce.isNone && o.addressType.isNone && o.logLevel.isNone &&
    o.logFile.isNone

def override (s : Settings) (o : Overrides) : Settings where
  difficultyBits := (o.difficultyBits.map Value.int).getD s.difficultyBits
  maxNonce := (o.maxNonce.map Value.int).getD s.maxNonce
  addressType := (o.addressType.map Value.text).getD s.addressType
  logLevel := (o.logLevel.map Value.text).getD s.logLevel
  logFile := (o.logFile.map Value.text).getD s.logFile
  extra := s.extra

def ofEnvironment (env : Environment) : Except Failure Settings := do
  ofValue (← Overrides.ofEnvironment env).toValue

mutual

/-- How many calls in one another copying data takes: two for each collection that a part is in, and
two for the part. -/
def copyCalls : Value → Nat
  | .list items => 2 + copyCallsOfItems items
  | .object fields => 2 + copyCallsOfFields fields
  | _ => 2

def copyCallsOfItems : List Value → Nat
  | [] => 1
  | v :: rest => max (copyCalls v) (copyCallsOfItems rest)

def copyCallsOfFields : List (String × Value) → Nat
  | [] => 1
  | (_, v) :: rest => max (copyCalls v) (copyCallsOfFields rest)

end

/-- How many calls in one another copying settings takes. A record takes four, and a section is a
record in one. -/
def calls (s : Settings) : Nat :=
  4 + max (copyCalls s.extra)
    (4 + copyCallsOfItems [s.difficultyBits, s.maxNonce, s.addressType, s.logLevel, s.logFile])

def copyWithin (room : Nat) (s : Settings) : Except Failure Settings :=
  if s.calls ≤ room then .ok s else .error .tooManyCalls

/-- Settings under the overrides of the environment, which are written over a copy. Where nothing is
overridden there is none. -/
def underEnvironment (room : Nat) (s : Settings) (env : Environment) : Except Failure Settings := do
  let o ← Overrides.ofEnvironment env
  if o.isEmpty then return s
  return (← s.copyWithin room).override o

/-! ## Single settings -/

def nameOf : Value → Except Failure String
  | .text s => .ok s
  | v => .error (.badType s!"attribute name must be string, not {Quoted.encode v.kind}")

def operations : List String :=
  ["to_dict", "from_dict", "from_env", "from_yaml", "with_env_overrides", "_get_env_overrides"]

def ownNames : Value → List String
  | .object _ => ["clear", "copy", "fromkeys", "get", "items", "keys", "pop", "popitem",
    "setdefault", "update", "values"]
  | .list _ => ["append", "clear", "copy", "count", "extend", "index", "insert", "pop", "remove",
    "reverse", "sort"]
  | _ => []

def nameRefusalIn (v : Value) (name : String) : Failure :=
  if (ownNames v).contains name then
    .noAttribute
      s!"{Quoted.encode v.kind} object attribute {Quoted.encode name} is read-only"
  else .lacksAttribute v.kind name

/-- Sets one setting of a section. Names that a section does not know are let pass and change
nothing. -/
def assignIn (s : Settings) (sectionName name : String) (v : Value) : Except Failure Settings :=
  match sectionName, name with
  | "pow", "difficulty_bits" => .ok { s with difficultyBits := v }
  | "pow", "max_nonce" => .ok { s with maxNonce := v }
  | "address", "default_type" => .ok { s with addressType := v }
  | "logging", "level" => .ok { s with logLevel := v }
  | "logging", "file" => .ok { s with logFile := v }
  | "pow", _ | "address", _ | "logging", _ => .ok s
  | "extra", name => .error (nameRefusalIn s.extra name)
  | _, name => .error (.lacksAttribute "method" name)

def hasPart (sectionName : String) : Bool :=
  (sections.map (·.field)).contains sectionName || sectionName = "extra" ||
    operations.contains sectionName

/-- Sets one setting. The section is looked for before the name of the setting is looked at. -/
def assign (s : Settings) (sectionName name v : Value) : Except Failure Settings := do
  let part ← nameOf sectionName
  if !hasPart part then throw (.lacksAttribute "RuntimeConfig" part)
  s.assignIn part (← nameOf name) v

end Settings

/-! ## Settings in common -/

/-- The settings that everyone shares who names none: they are made from the environment when first
asked for, and stay until they are replaced or dropped. Each is told apart by the number of settings
made before it. -/
structure SharedSettings where
  current : Option (Nat × Settings)
  made : Nat

namespace SharedSettings

def none : SharedSettings := { current := .none, made := 0 }

def get (shared : SharedSettings) (env : Environment) :
    Except Failure (Nat × Settings × SharedSettings) :=
  match shared.current with
  | some (number, s) => .ok (number, s, shared)
  | .none => do
    let s ← Settings.ofEnvironment env
    return (shared.made, s, { current := some (shared.made, s), made := shared.made + 1 })

def set (shared : SharedSettings) (s : Settings) : SharedSettings :=
  { current := some (shared.made, s), made := shared.made + 1 }

def reset (shared : SharedSettings) : SharedSettings :=
  { shared with current := .none }

def assign (shared : SharedSettings) (env : Environment) (sectionName name v : Value) :
    SharedSettings × Except Failure Unit :=
  match shared.get env with
  | .error e => (shared, .error e)
  | .ok (number, s, shared) =>
    match s.assign sectionName name v with
    | .error e => (shared, .error e)
    | .ok s => ({ shared with current := some (number, s) }, .ok ())

end SharedSettings

end Attest
