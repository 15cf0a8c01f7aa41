import Attest.Command.Execution

/-!
# The program

A run reads its arguments, then its preferences, opens the log and carries out its command. What
stops a command becomes exit code 1; only preferences of an unusable kind and a log that cannot be
opened let a failure through.
-/

namespace Attest

/-- How a run ends: with an exit code, or with a failure that is let through; and what it has
written to the two outputs. -/
structure Outcome where
  result : Except Failure Nat
  out : String
  err : String

namespace Outcome

def ofReply (r : Reply) : Outcome :=
  { result := .ok r.code, out := r.out, err := r.err }

/-- A failure that is let through. -/
def escaped (e : Failure) : Outcome :=
  { result := .error e, out := "", err := "" }

def ofStop : Arguments.Stop → Outcome
  | .help usage => { result := .ok 0, out := usage ++ "\n", err := "" }
  | .version =>
    { result := .ok 0, out := s!"{Command.programName} {Command.version}\n", err := "" }
  | .refused program usage c =>
    { result := .ok 2, out := "", err := s!"{usage}\n{program}: error: {c.message}\n" }

/-- What is written of a failure of a command: a trace where the level asks for all details. -/
def failureText (level : String) (e : Failure) : String :=
  if Journal.upper level = "DEBUG" then
    s!"Traceback (most recent call last):\n{e.name}: {e.message}\n"
  else s!"Error: {e.message}\n"

def ofCommand (level lines : String) : Except Failure Reply → Outcome
  | .ok r => ofReply { r with err := lines ++ r.err }
  | .error e => { result := .ok 1, out := "", err := lines ++ failureText level e }

end Outcome

section
variable {m : Type → Type} [Monad m] [Host m]

def Invocation.startLog (i : Invocation) (p : Preferences) :
    ExceptT Failure m (String × Journal.Log) := do
  let level ← match i.logLevel with
    | some level => pure level
    | none => Journal.levelName p.logLevel
  return (level, ← Journal.start level p.logFile)

def Invocation.runUnder (i : Invocation) (scheme : SignatureScheme) (p : Preferences) :
    m Outcome := do
  match ← (i.startLog p).run with
  | .error e => return .escaped e
  | .ok (level, log) =>
    let (result, lines) ← (((i.command.run scheme p).run log).run).run ""
    return .ofCommand level lines result

def Invocation.run (i : Invocation) (scheme : SignatureScheme) (env : Environment) :
    m Outcome := do
  match ← (Preferences.load i.config env).run with
  | .ok p => i.runUnder scheme p
  | .error e =>
    if e.isFileProblem || e.isValueRefusal then
      return { result := .ok 1, out := "", err := s!"Error loading configuration: {e.message}\n" }
    else return .escaped e

/-- Runs the program. Without a command it shows how it is used and ends with code 1. -/
def runProgram (scheme : SignatureScheme) (env : Environment) (args : List String) :
    m Outcome := do
  match Invocation.parse args with
  | .error stop => return .ofStop stop
  | .ok none =>
    return { result := .ok 1, out := Command.grammar.usage ++ "\n", err := "" }
  | .ok (some i) => i.run scheme env

end

end Attest
