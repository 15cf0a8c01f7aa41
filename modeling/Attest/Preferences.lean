import Attest.Host
import Attest.Json.Reader
import Attest.Settings

/-!
# Preferences of the command line

The command line takes its settings from a file in JSON: the one that it is told, or else the first
that is there of three usual ones. Variables of the environment override single settings of the
file.
-/

namespace Attest

/-- The settings of the command line. -/
structure Preferences where
  difficultyBits : Value
  maxNonce : Value
  addressType : Value
  logLevel : Value
  logFile : Value
  outputFormat : Value
  deriving Repr

namespace Preferences

def default : Preferences where
  difficultyBits := .int Miner.defaultBits
  maxNonce := .int Miner.defaultMaxNonce
  addressType := .text "base58"
  logLevel := .text "INFO"
  logFile := .null
  outputFormat := .text "human"

def toValue (p : Preferences) : Value :=
  .object [("difficulty_bits", p.difficultyBits), ("max_nonce", p.maxNonce),
    ("address_type", p.addressType), ("log_level", p.logLevel), ("log_file", p.logFile),
    ("default_output_format", p.outputFormat)]

def toSettings (p : Preferences) : Settings where
  difficultyBits := p.difficultyBits
  maxNonce := p.maxNonce
  addressType := p.addressType
  logLevel := p.logLevel
  logFile := p.logFile
  extra := .object []

/-- The preferences that the environment alone gives. A text is taken as it is set, even if empty.
-/
def ofEnvironment (env : Environment) : Except Failure Preferences := do
  let difficultyBits ← env.integer? Environment.difficultyBits
  let maxNonce ← env.integer? Environment.maxNonce
  let text (name : String) (default : Value) := ((env.get? name).map Value.text).getD default
  return { default with
    difficultyBits := (difficultyBits.map Value.int).getD default.difficultyBits
    maxNonce := (maxNonce.map Value.int).getD default.maxNonce
    addressType := text Environment.addressType default.addressType
    logLevel := text Environment.logLevel default.logLevel
    logFile := text Environment.logFile default.logFile }

def fieldsOf (v : Value) : Except Failure Fields :=
  match v with
  | .object fields => .ok fields
  | v => .error (.lacksAttribute v.kind "get")

def ofValue (v : Value) : Except Failure Preferences := do
  let fields ← fieldsOf v
  let pow ← fieldsOf ((fields.get? "pow").getD (.object []))
  return { difficultyBits := (pow.get? "difficulty_bits").getD default.difficultyBits
           maxNonce := (pow.get? "max_nonce").getD default.maxNonce
           addressType := (fields.get? "address_type").getD default.addressType
           logLevel := (fields.get? "log_level").getD default.logLevel
           logFile := (fields.get? "log_file").getD default.logFile
           outputFormat := (fields.get? "default_output_format").getD default.outputFormat }

def ofText (s : String) : Except Failure Preferences :=
  match Json.parse s with
  | .ok v => ofValue v
  | .error (.tooLong digits) => .error (.badValue (Numeral.tooLongText digits))
  | .error (.tooDeep container) => .error (.tooDeep (Json.Refusal.tooDeep container).message)
  | .error r => .error (.badJson r.message)

/-- Preferences under the environment: a variable counts where it is given. -/
def override (p : Preferences) (env : Environment) : Except Failure Preferences := do
  let e ← ofEnvironment env
  let pick (name : String) (own other : Value) : Value :=
    if (env.given? name).isSome then other else own
  return { p with
    difficultyBits := pick Environment.difficultyBits p.difficultyBits e.difficultyBits
    maxNonce := pick Environment.maxNonce p.maxNonce e.maxNonce
    addressType := pick Environment.addressType p.addressType e.addressType
    logLevel := pick Environment.logLevel p.logLevel e.logLevel
    logFile := pick Environment.logFile p.logFile e.logFile }

/-! ## Files -/

section
variable {m : Type → Type} [Monad m] [Host m]

/-- The preferences of a file that has to be there. -/
def ofFile (path : String) : ExceptT Failure m Preferences := do
  if ← Host.doesExist path then ofText (← Host.readText path)
  else throw (.file .absent s!"Config file not found: {path}")

def ofFirst : List String → ExceptT Failure m Preferences
  | [] => return default
  | path :: rest => do if ← Host.doesExist path then ofFile path else ofFirst rest

/-- The files that are looked for when none is told. -/
def usualPaths (folder home : String) : List String :=
  [Path.inside folder "kaiblock.json", Path.inside folder ".kaiblock.json",
    Path.inside home ".config/kaiblock/config.json"]

/-- The files that are told. Telling something that is no path is telling that there is none. -/
def toldPaths : Option (Given String) → List String
  | some (.proper path) => [Path.normalise path]
  | some (.other _) | none => []

/-- The preferences of the file told, which need not be there, or of the usual ones. The folders of
the usual ones are asked for behind the file told, even if there is one. -/
def ofFiles (path : Option (Given String)) : ExceptT Failure m Preferences := do
  let told ← ofFirst (toldPaths path)
  let folder ← Host.workingFolder
  let home ← Host.homeFolder
  if path.isSome then return told else ofFirst (usualPaths folder home)

def load (path : Option (Given String)) (env : Environment) : ExceptT Failure m Preferences := do
  (← ofFiles path).override env

end

def template : String :=
  "\x7b\n" ++
  "  \"pow\": \x7b\n" ++
  "    \"difficulty_bits\": 16,\n" ++
  "    \"max_nonce\": 2000000\n" ++
  "  \x7d,\n" ++
  "  \"address_type\": \"base58\",\n" ++
  "  \"log_level\": \"INFO\",\n" ++
  "  \"log_file\": null,\n" ++
  "  \"default_output_format\": \"human\"\n" ++
  "\x7d\n"

end Preferences

end Attest
