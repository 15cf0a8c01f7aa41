import Attest.Yaml.Scan.State

/-!
# Block scalars

A block scalar is made of the lines that are indented far enough. Its line ends are kept, or folded
into spaces; marks at its head tell what happens to those at its end.
-/

namespace Attest.Yaml.Scan

/-- What happens to the line ends at the end of a block scalar. -/
inductive Chomping where
  | strip
  | clip
  | keep

def chomping? : Scan (Option Chomping) := do
  match ← peek 0 with
  | some '+' =>
    forward 1
    return some .keep
  | some '-' =>
    forward 1
    return some .strip
  | _ => return none

def increment? : Scan (Option Nat) := do
  match ← peek 0 with
  | some c =>
    if c.isDigit then
      demand (c ≠ '0')
      forward 1
      return some (c.toNat - 48)
    else return none
  | none => return none

def blockHead : Scan (Chomping × Option Nat) := do
  let early ← chomping?
  let increment ← increment?
  let late ← if early.isNone && increment.isSome then chomping? else pure none
  demand (isSpaceOrEnd (← peek 0))
  return ((early <|> late).getD .clip, increment)

/-- The empty lines at the front of a block scalar, and the deepest column of a space in them. -/
def blockIndentation : (fuel : Nat) → (deepest : Nat) → Scan (List Char × Nat)
  | 0, deepest => return ([], deepest)
  | fuel + 1, deepest => do
    match ← peek 0 with
    | some ' ' =>
      forward 1
      blockIndentation fuel (max deepest (← get).column)
    | some c =>
      if isBreak c then
        let ends ← lineBreak
        let (more, deepest) ← blockIndentation fuel deepest
        return (ends ++ more, deepest)
      else return ([], deepest)
    | none => return ([], deepest)

def indentTo (column : Nat) : Scan Unit := do
  let s ← get
  let spaces := (s.rest.take (column - s.column)).takeWhile (· = ' ')
  forward spaces.length

def blockBreaks (column : Nat) : (fuel : Nat) → Scan (List Char)
  | 0 => return []
  | fuel + 1 => do
    indentTo column
    match ← peek 0 with
    | some c =>
      if isBreak c then
        let ends ← lineBreak
        return ends ++ (← blockBreaks column fuel)
      else return []
    | none => return []

/-- The lines of a block scalar indented to a column, behind what leads to them; then the line end
of the last one, and the line ends after it. -/
def blockLines (isFolded : Bool) (column : Nat) : (fuel : Nat) → (lead : List Char) →
    Scan (List Char × List Char × List Char)
  | 0, lead => return (lead, [], [])
  | fuel + 1, lead => do
    let isFlush := !isOneOf " \t" (← peek 0)
    let line ← takeWhile (!isBreak ·)
    let ends ← lineBreak
    let breaks ← blockBreaks column ((← get).size + 1)
    let next ← peek 0
    if (← get).column = column && next.isSome then
      let isJoined := isFolded && ends = ['\n'] && isFlush && !isOneOf " \t" next
      let gap := if !isJoined then ends else if breaks.isEmpty then [' '] else []
      let (text, last, after) ← blockLines isFolded column fuel (gap ++ breaks)
      return (lead ++ line ++ text, last, after)
    else return (lead ++ line, ends, breaks)

def blockScalar (isFolded : Bool) : Scan Token := do
  forward 1
  let (chomping, increment) ← blockHead
  endLine
  let s ← get
  let least := (max (s.indent + 1) 1).toNat
  let fuel := s.size + 1
  let (column, breaks) ← match increment with
    | none => do
      let (breaks, deepest) ← blockIndentation fuel 0
      pure (max least deepest, breaks)
    | some n => do
      let column := least + n - 1
      pure (column, ← blockBreaks column fuel)
  let (text, ends, breaks) ←
    if (← get).column = column && (← peek 0).isSome then blockLines isFolded column fuel breaks
    else pure ([], [], breaks)
  let text := match chomping with
    | .strip => text
    | .clip => text ++ ends
    | .keep => text ++ ends ++ breaks
  return .scalar (String.ofList text) false

end Attest.Yaml.Scan
