import Attest.Failure
import Attest.Text.Integer

/-!
# Times in YAML

A date has a year, a month and a day; it may be followed by a time of day with a fraction and an
offset from universal time. What has the form of a time may still be none, like the thirtieth of
February.
-/

namespace Attest.Yaml

structure Zone where
  isWest : Bool
  hours : Nat
  minutes : Nat
  deriving DecidableEq, Repr

structure Clock where
  hour : Nat
  minute : Nat
  second : Nat
  microsecond : Nat
  zone : Option Zone
  deriving DecidableEq, Repr

/-- A date, with or without a time of day. -/
structure Stamp where
  year : Nat
  month : Nat
  day : Nat
  clock : Option Clock
  deriving DecidableEq, Repr

namespace Stamp

open Numeral (padded)

/-! ## Reading -/

/-- The number of `least` to `most` digits at the front, and what follows. -/
def digits (least most : Nat) (cs : List Char) : Option (Nat × List Char) :=
  let ds := (cs.take most).takeWhile Char.isDigit
  if ds.length < least then none
  else some (Numeral.ofChars ds, cs.drop ds.length)

/-- The number of `least` to `most` digits behind a mark, and what follows. -/
def marked (mark : Char) (least most : Nat) : List Char → Option (Nat × List Char)
  | c :: rest => if c = mark then digits least most rest else none
  | [] => none

def isBlank (c : Char) : Bool :=
  c = ' ' || c = '\t'

/-- The offset that a whole text is; there need not be one. -/
def readZone (cs : List Char) : Option (Option Zone) :=
  match cs.dropWhile isBlank with
  | [] => if cs.isEmpty then some none else none
  | ['Z'] => some (some ⟨false, 0, 0⟩)
  | sign :: rest =>
    if sign = '+' || sign = '-' then do
      let (hours, rest) ← digits 1 2 rest
      let (minutes, rest) ← if rest.isEmpty then some (0, []) else marked ':' 2 2 rest
      if rest.isEmpty then some (some ⟨sign = '-', hours, minutes⟩) else none
    else none

def readFraction : List Char → Nat × List Char
  | '.' :: rest =>
    let ds := (rest.takeWhile Char.isDigit).take 6
    (Numeral.ofChars (ds ++ List.replicate (6 - ds.length) '0'), rest.dropWhile Char.isDigit)
  | cs => (0, cs)

def readClock (cs : List Char) : Option Clock := do
  let (hour, cs) ← digits 1 2 cs
  let (minute, cs) ← marked ':' 2 2 cs
  let (second, cs) ← marked ':' 2 2 cs
  let (microsecond, cs) := readFraction cs
  return { hour, minute, second, microsecond, zone := ← readZone cs }

def read (cs : List Char) : Option Stamp := do
  let (year, cs) ← digits 4 4 cs
  let (month, cs) ← marked '-' 1 2 cs
  let (day, cs) ← marked '-' 1 2 cs
  let clock ← match cs with
    | [] => some none
    | c :: rest =>
      if c = 'T' || c = 't' then some <$> readClock rest
      else if isBlank c then some <$> readClock (rest.dropWhile isBlank)
      else none
  return { year, month, day, clock }

/-- Whether a text has the form of a time. A date alone has two digits for month and day. -/
def isForm (cs : List Char) : Bool :=
  match read cs with
  | some s => s.clock.isSome || cs.length = 10
  | none => false

/-! ## Checking -/

def monthLength (year month : Nat) : Nat :=
  let isLeap := year % 4 = 0 ∧ (year % 100 ≠ 0 ∨ year % 400 = 0)
  if month = 2 then (if isLeap then 29 else 28)
  else if [4, 6, 9, 11].contains month then 30
  else 31

def offset (z : Zone) : Nat :=
  60 * z.hours + z.minutes

def offsetText (z : Zone) : String :=
  let minutes : Int := if z.isWest then -(offset z : Int) else offset z
  let parts := [("days", minutes.fdiv 1440), ("seconds", 60 * minutes.fmod 1440)].filter (·.2 ≠ 0)
  "offset must be a timedelta strictly between -timedelta(hours=24) and timedelta(hours=24), " ++
    "not datetime.timedelta(" ++
    String.intercalate ", " (parts.map fun (name, n) => s!"{name}={n}") ++ ")."

def check (s : Stamp) : Except Failure Unit := do
  let demand (holds : Bool) (message : String) : Except Failure Unit :=
    if holds then .ok () else .error (.badValue message)
  if let some z := s.clock.bind (·.zone) then
    demand (offset z < 1440) (offsetText z)
  demand (s.year ≠ 0) s!"year {s.year} is out of range"
  demand (1 ≤ s.month && s.month ≤ 12) "month must be in 1..12"
  demand (1 ≤ s.day && s.day ≤ monthLength s.year s.month) "day is out of range for month"
  if let some c := s.clock then
    demand (c.hour < 24) "hour must be in 0..23"
    demand (c.minute < 60) "minute must be in 0..59"
    demand (c.second < 60) "second must be in 0..59"

/-! ## Writing -/

def showDate (s : Stamp) : String :=
  s!"{padded 4 s.year}-{padded 2 s.month}-{padded 2 s.day}"

def showZone (z : Zone) : String :=
  let minutes := offset z
  (if z.isWest && minutes ≠ 0 then "-" else "+") ++
    s!"{padded 2 (minutes / 60)}:{padded 2 (minutes % 60)}"

def showClock (c : Clock) : String :=
  s!"{padded 2 c.hour}:{padded 2 c.minute}:{padded 2 c.second}" ++
    (if c.microsecond = 0 then "" else "." ++ padded 6 c.microsecond) ++
    (c.zone.map showZone).getD ""

end Stamp

end Attest.Yaml
