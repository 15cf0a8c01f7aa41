import Attest.Text.Half
import Attest.Text.Hex
import Attest.Yaml.Scan.State

/-!
# Quoted scalars

Between single quotes only the quote itself is written in another way, twice. Between double quotes
there are escapes. In both, a single line end stands for a space, and of several the first is left
out.
-/

namespace Attest.Yaml.Scan

def escaped? (c : Char) : Option Char :=
  List.lookup c [('0', '\x00'), ('a', '\x07'), ('b', '\x08'), ('t', '\t'), ('\t', '\t'),
    ('n', '\n'), ('v', '\x0b'), ('f', '\x0c'), ('r', '\r'), ('e', '\x1b'), (' ', ' '),
    (Char.ofNat 34, Char.ofNat 34), (Char.ofNat 92, Char.ofNat 92), ('/', '/'), ('N', '\u0085'),
    ('_', '\u00a0'), ('L', '\u2028'), ('P', '\u2029')]

def escapeWidth? (c : Char) : Option Nat :=
  List.lookup c [('x', 2), ('u', 4), ('U', 8)]

def quotedBreaks : (fuel : Nat) → Scan (List Char)
  | 0 => return []
  | fuel + 1 => do
    demand !(← isAtSeparator ["---", "..."])
    let _ ← takeWhile fun c => c = ' ' || c = '\t'
    match ← peek 0 with
    | some c =>
      if isBreak c then
        let ends ← lineBreak
        return ends ++ (← quotedBreaks fuel)
      else return []
    | none => return []

def ofHex (ds : List Nat) : Nat :=
  ds.foldl (fun n d => 16 * n + d) 0

/-- The character of a number. Two halves of a character stay what they are. -/
def numbered (n : Nat) : Scan Char := do
  if 0x80000000 ≤ n then throw (.overflow "Python int too large to convert to C int")
  if 0x110000 ≤ n then throw (.badValue "chr() arg not in range(0x110000)")
  return if Text.isFirstHalf n || Text.isSecondHalf n then Text.half n else Char.ofNat n

def numericEscape (width : Nat) : Scan Char := do
  let digits := ((← get).rest.take width).map Hex.value?
  let valid := digits.takeWhile (·.isSome)
  if valid.length = width then
    forward width
    numbered (ofHex (valid.filterMap id))
  else
    reach valid.length
    refuse

def quotedWord (quote : Char) : (fuel : Nat) → Scan (List Char)
  | 0 => return []
  | fuel + 1 => do
    let isDouble := quote = Char.ofNat 34
    let plain ← takeWhile fun c =>
      !(c = Char.ofNat 39 || c = Char.ofNat 34 || c = Char.ofNat 92 || isBlankOrEnd (some c))
    match ← peek 0 with
    | none => return plain
    | some c =>
      let isTwice : Bool ←
        if !isDouble && c = quote then do pure ((← peek 1) = some quote) else pure false
      if isTwice then
        forward 2
        return plain ++ quote :: (← quotedWord quote fuel)
      else if isBlankOrEnd (some c) || c = quote then return plain
      else if !(isDouble && c = Char.ofNat 92) then
        forward 1
        return plain ++ c :: (← quotedWord quote fuel)
      else
        forward 1
        match ← peek 0 with
        | none => refuse
        | some e =>
          match escaped? e, escapeWidth? e with
          | some c, _ =>
            forward 1
            return plain ++ c :: (← quotedWord quote fuel)
          | none, some width =>
            forward 1
            let c ← numericEscape width
            return plain ++ c :: (← quotedWord quote fuel)
          | none, none =>
            if isBreak e then
              let _ ← lineBreak
              let breaks ← quotedBreaks fuel
              return plain ++ breaks ++ (← quotedWord quote fuel)
            else refuse

/-- The blanks between two quoted words: a single line end becomes a space. -/
def quotedBlanks (fuel : Nat) : Scan (List Char) := do
  let blanks ← takeWhile fun c => c = ' ' || c = '\t'
  match ← peek 0 with
  | none => refuse
  | some c =>
    if isBreak c then
      let ends ← lineBreak
      let breaks ← quotedBreaks fuel
      return (if ends ≠ ['\n'] then ends else if breaks.isEmpty then [' '] else []) ++ breaks
    else return blanks

def quotedText (quote : Char) : (fuel : Nat) → Scan (List Char)
  | 0 => refuse
  | fuel + 1 => do
    let word ← quotedWord quote (fuel + 1)
    if (← peek 0) = some quote then
      forward 1
      return word
    else
      let blanks ← quotedBlanks (fuel + 1)
      return word ++ blanks ++ (← quotedText quote fuel)

def quoted (quote : Char) : Scan Token := do
  forward 1
  let text ← quotedText quote ((← get).size + 2)
  return .scalar (String.ofList text) false

end Attest.Yaml.Scan
