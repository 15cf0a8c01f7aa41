import Attest.Yaml.Supply
import Attest.Yaml.Token

/-!
# Scanning

Tokens are made one after the other as they are asked for, so that a fault further down is not seen
before it has to be. Indentation opens and closes collections. A key is only known by the colon
after it, on the same line and not too far away; until then its place is kept, and the tokens that
tell of it are put in there.
-/

namespace Attest.Yaml

/-- A place where a key may have begun: the number of its first token, whether there has to be a
key, and where it stands. -/
structure KeyPlace where
  token : Nat
  isNeeded : Bool
  index : Nat
  line : Nat
  column : Nat
  deriving Repr

/-- The state between two tokens: what is left of the text, the number of characters of all of it,
what stops the reading behind it, where it stands, the collections that are open, the places where
keys may have begun, by flow level, and the tokens made but not taken. The flow level is below zero
after more ends than starts. -/
structure Scanner where
  rest : List Char
  size : Nat
  trouble : Option Failure
  index : Nat
  line : Nat
  column : Nat
  flowLevel : Int
  indent : Int
  indents : List Int
  allowsKey : Bool
  keyPlaces : List (Int × KeyPlace)
  queue : List Token
  taken : Nat
  isDone : Bool

def Scanner.ofSupply (supply : Supply) : Scanner where
  rest := supply.text
  size := supply.text.length
  trouble := supply.trouble
  index := 0
  line := 0
  column := 0
  flowLevel := 0
  indent := -1
  indents := []
  allowsKey := true
  keyPlaces := []
  queue := []
  taken := 0
  isDone := false

def Scanner.step (s : Scanner) : Scanner :=
  match s.rest with
  | [] => s
  | c :: rest =>
    let s := { s with rest, index := s.index + 1 }
    if isBreak c && !(c = '\r' && rest.head? = some '\n') then
      { s with line := s.line + 1, column := 0 }
    else if c = '\ufeff' then s
    else { s with column := s.column + 1 }

abbrev Scan := StateT Scanner (Except Failure)

namespace Scan

def refuse {α : Type} : Scan α :=
  throw (.badYaml .token)

def demand (holds : Bool) : Scan Unit :=
  if holds then pure () else refuse

/-- Demands the character `n` places ahead: it may be behind the end of the text, but not behind
what stops the reading. -/
def reach (n : Nat) : Scan Unit := do
  let s ← get
  if let some f := s.trouble then
    if (s.rest.drop n).isEmpty then throw f

def peek (n : Nat) : Scan (Option Char) := do
  reach n
  return (← get).rest[n]?

def isBlankNext : Scan Bool := do
  return isBlankOrEnd (← peek 1)

def forward (n : Nat) : Scan Unit := do
  reach n
  modify fun s => Nat.repeat Scanner.step n s

def takeWhile (p : Char → Bool) : Scan (List Char) := do
  let cs := (← get).rest.takeWhile p
  forward cs.length
  return cs

def skipSpaces : Scan Unit := do
  let _ ← takeWhile (· = ' ')

def skipComment : Scan Unit := do
  if (← peek 0) = some '#' then
    let _ ← takeWhile (!isBreak ·)

/-- Takes a line end, if there is one: most of them become line feeds. -/
def lineBreak : Scan (List Char) := do
  match ← peek 0 with
  | none => return []
  | some c =>
    if !isBreak c then return []
    let isPair := c = '\r' && (← peek 1) = some '\n'
    forward (if isPair then 2 else 1)
    return [if c = '\u2028' || c = '\u2029' then c else '\n']

def emit (t : Token) : Scan Unit :=
  modify fun s => { s with queue := s.queue ++ [t] }

def isAtSeparator (marks : List String) : Scan Bool := do
  reach 2
  let rest := (← get).rest
  if marks.any fun mark => rest.take 3 = mark.toList then
    return isBlankOrEnd (← peek 3)
  else return false

/-- The rest of a line that may hold nothing but a comment, and its end. -/
def endLine : Scan Unit := do
  skipSpaces
  skipComment
  demand (isLineEnd (← peek 0))
  let _ ← lineBreak

/-! ## Keys and indentation -/

/-- The farthest that a colon may be from the start of its key. -/
def keyReach : Nat := 1024

/-- Gives up the places of keys that are too far away. -/
def dropStaleKeys : Scan Unit := do
  let s ← get
  let isStale (p : KeyPlace) := p.line ≠ s.line || keyReach < s.index - p.index
  demand (!s.keyPlaces.any fun (_, p) => isStale p && p.isNeeded)
  set { s with keyPlaces := s.keyPlaces.filter fun (_, p) => !isStale p }

def dropKey : Scan Unit := do
  let s ← get
  match s.keyPlaces.lookup s.flowLevel with
  | none => pure ()
  | some p =>
    demand (!p.isNeeded)
    set { s with keyPlaces := s.keyPlaces.filter (·.1 ≠ s.flowLevel) }

/-- Keeps this place as the place of a key, if a key may be here. -/
def keepKey : Scan Unit := do
  if (← get).allowsKey then
    dropKey
    let s ← get
    let place : KeyPlace :=
      { token := s.taken + s.queue.length, isNeeded := s.flowLevel = 0 && s.indent = s.column,
        index := s.index, line := s.line, column := s.column }
    set { s with keyPlaces := s.keyPlaces ++ [(s.flowLevel, place)] }

def allowKey (b : Bool) : Scan Unit :=
  modify fun s => { s with allowsKey := b }

/-- Closes the collections that are indented more than `column`, if they are no flow collections. -/
def unwind (column : Int) : Scan Unit :=
  modify fun s =>
    if s.flowLevel ≠ 0 then s
    else
      let levels := s.indent :: s.indents
      let closed := levels.takeWhile (column < ·)
      let kept := levels.dropWhile (column < ·)
      { s with queue := s.queue ++ closed.map fun _ => Token.blockEnd
               indent := kept.headD (-1), indents := kept.tail }

/-- Opens a collection at a column, unless one is open there; tells whether it did. -/
def openAt (column : Nat) : Scan Bool := do
  let s ← get
  if s.indent < column then
    set { s with indents := s.indent :: s.indents, indent := (column : Int) }
    return true
  else return false

def mayBeKey : Scan Bool := do
  let s ← get
  return match (s.keyPlaces.map (·.2.token)).min? with
    | some n => n = s.taken
    | none => false

end Scan

end Attest.Yaml
