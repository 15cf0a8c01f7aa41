import Attest.Host
import Attest.Text.Integer
import Attest.Value

/-!
# The log

Notes have a level and the name of the part that writes them. Those at or above the level of the log
are written as lines, with the time, to the error output and to a file if one is set.
-/

namespace Attest.Journal

open Numeral (padded)

inductive Level where
  | debug
  | info
  | warning
  deriving DecidableEq, Repr

/-- The weight of a level; heavier notes pass more logs. -/
def Level.weight : Level → Nat
  | .debug => 10
  | .info => 20
  | .warning => 30

def Level.word : Level → String
  | .debug => "DEBUG"
  | .info => "INFO"
  | .warning => "WARNING"

structure Note where
  level : Level
  writer : String
  text : String
  deriving DecidableEq, Repr

/-! ## Time -/

/-- The year, month and day of a number of days since 1970. Years are counted from March, in cycles
of 400 years, so that leap days come last. -/
def civil (days : Nat) : Nat × Nat × Nat :=
  let z := days + 719468
  let cycle := z / 146097
  let day := z % 146097
  let year := (day - day / 1460 + day / 36524 - day / 146096) / 365
  let day := day - (365 * year + year / 4 - year / 100)
  let month := (5 * day + 2) / 153
  let date := day - (153 * month + 2) / 5 + 1
  let month := if month < 10 then month + 3 else month - 9
  (400 * cycle + year + (if month ≤ 2 then 1 else 0), month, date)

def unitsPerSecond : Nat := 10000

def showTime (clock : Nat) : String :=
  let seconds := clock / unitsPerSecond
  let (year, month, date) := civil (seconds / 86400)
  let rest := seconds % 86400
  s!"{padded 4 year}-{padded 2 month}-{padded 2 date} {padded 2 (rest / 3600)}:" ++
    s!"{padded 2 (rest / 60 % 60)}:{padded 2 (rest % 60)}"

def Note.line (n : Note) (clock : Nat) : String :=
  s!"{showTime clock} [{n.level.word}] {n.writer}: {n.text}\n"

/-! ## Levels by name -/

/-- A letter in upper case: the Latin letters, and the letters beyond them whose upper case is among
those, two of which stand for two. -/
def raise (c : Char) : List Char :=
  if c = '\u0131' then ['I']
  else if c = '\u017f' then ['S']
  else if c = '\ufb05' ∨ c = '\ufb06' then ['S', 'T']
  else [c.toUpper]

def upper (s : String) : String :=
  String.ofList (s.toList.flatMap raise)

/-- The level of a log whose name is not known. -/
def defaultThreshold : Nat := Level.info.weight

def styles : String :=
  "\x7b'%': (<class 'logging.PercentStyle'>, '%(levelname)s:%(name)s:%(message)s'), " ++
    "'\x7b': (<class 'logging.StrFormatStyle'>, " ++
    "'\x7blevelname\x7d:\x7bname\x7d:\x7bmessage\x7d'), " ++
    "'$': (<class 'logging.StringTemplateStyle'>, " ++
    "'$\x7blevelname\x7d:$\x7bname\x7d:$\x7bmessage\x7d')\x7d"

/-- The least weight that a log of a named level lets pass. Names are compared without case. Two
names are those of something else than a level. -/
def thresholdOf (name : String) : Except Failure Nat :=
  match upper name with
  | "NOTSET" => .ok 0
  | "DEBUG" => .ok 10
  | "INFO" => .ok 20
  | "WARN" | "WARNING" => .ok 30
  | "ERROR" => .ok 40
  | "CRITICAL" | "FATAL" => .ok 50
  | "BASIC_FORMAT" => .error (.badValue "Unknown level: '%(levelname)s:%(name)s:%(message)s'")
  | "_STYLES" => .error (.badType ("Level not an integer or a valid string: " ++ styles))
  | _ => .ok defaultThreshold

/-! ## Writing -/

/-- A log: the least weight that passes, and the file, if any, by its path from the root. -/
structure Log where
  threshold : Nat
  file : Option String
  deriving DecidableEq, Repr

/-- The text of a setting that has to be a text, to be put into upper case. -/
def levelName (v : Value) : Except Failure String :=
  match v with
  | .text s => .ok s
  | v => .error (.lacksAttribute v.kind "upper")

/-- The path of a setting that names a file; one without content names none. -/
def fileName (v : Value) : Except Failure (Option String) :=
  if !v.isGiven then .ok none
  else match v with
    | .text s => .ok (some s)
    | v => .error (.notPath v.kind)

section
variable {m : Type → Type} [Monad m] [Host m]

/-- A path from the root. Only one that does not start there needs the working folder. -/
def rooted (path : String) : ExceptT Failure m String := do
  if Path.isAbsolute path then return Path.absolute "/" path
  else return Path.absolute (← Host.workingFolder) path

def openFile (path : String) : ExceptT Failure m String := do
  let path ← rooted path
  Host.appendText path ""
  return path

def start (level : String) (file : Value) : ExceptT Failure m Log := do
  let file ← match ← fileName file with
    | none => pure none
    | some path => some <$> openFile path
  return { threshold := ← thresholdOf level, file }

/-- Writes a note to the file of the log, if it passes and there is a file, and returns its line;
the line of a note that does not pass is empty. A line with halves of characters does not reach the
file. -/
def Log.write (log : Log) (n : Note) : m String := do
  if n.level.weight < log.threshold then return ""
  let text := n.line (← Host.clock)
  if let some path := log.file then
    if !Text.hasHalf text then
      let _ ← (Host.appendText path text : ExceptT Failure m Unit).run
  return text

end

end Attest.Journal
