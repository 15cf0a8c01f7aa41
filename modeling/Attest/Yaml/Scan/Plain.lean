import Attest.Yaml.Scan.State

/-!
# Plain scalars

A plain scalar has no marks of its own: it goes on until a mark or a line that is not indented
enough. Line ends in it count as in quoted scalars.
-/

namespace Attest.Yaml.Scan

def plainWord (inFlow : Bool) : List Char → List Char
  | [] => []
  | c :: rest =>
    if isBlankOrEnd (some c) || (inFlow && ",?[]\x7b\x7d".toList.contains c) ||
        (c = ':' && (isBlankOrEnd rest.head? || (inFlow && isOneOf ",[]\x7b\x7d" rest.head?))) then
      []
    else c :: plainWord inFlow rest

/-- The empty lines and spaces after a line of a plain scalar; none before a document separator. -/
def plainBreaks : (fuel : Nat) → Scan (Option (List Char))
  | 0 => return some []
  | fuel + 1 => do
    match ← peek 0 with
    | some ' ' =>
      forward 1
      plainBreaks fuel
    | some c =>
      if isBreak c then
        let ends ← lineBreak
        if ← isAtSeparator ["---", "..."] then return none
        return (← plainBreaks fuel).map (ends ++ ·)
      else return some []
    | none => return some []

/-- The blanks after a word of a plain scalar. There are none before a document separator. -/
def plainBlanks (fuel : Nat) : Scan (List Char) := do
  let spaces ← takeWhile (· = ' ')
  if ((← peek 0).map isBreak).getD false then
    let ends ← lineBreak
    allowKey true
    if ← isAtSeparator ["---", "..."] then return []
    match ← plainBreaks fuel with
    | none => return []
    | some breaks =>
      return (if ends ≠ ['\n'] then ends else if breaks.isEmpty then [' '] else []) ++ breaks
  else return spaces

/-- The words of a plain scalar with the blanks between them; lines have to be indented by `least`.
-/
def plainWords (least : Int) : (fuel : Nat) → (blanks : List Char) → Scan (List Char)
  | 0, _ => return []
  | fuel + 1, blanks => do
    let s ← get
    if (← peek 0) = some '#' then return []
    let word := plainWord (s.flowLevel ≠ 0) s.rest
    reach (if s.rest[word.length]? = some ':' then word.length + 1 else word.length)
    if word.isEmpty then return []
    allowKey false
    forward word.length
    let after ← plainBlanks (fuel + 1)
    let s ← get
    let isOver := after.isEmpty || s.rest.head? = some '#'
    if isOver || (s.flowLevel = 0 && s.column < least) then
      return blanks ++ word
    else return blanks ++ word ++ (← plainWords least fuel after)

def plain : Scan Token := do
  let s ← get
  let text ← plainWords (s.indent + 1) (s.size + 1) []
  return .scalar (String.ofList text) true

end Attest.Yaml.Scan
