import Attest.Text.Hex
import Attest.Text.Integer
import Attest.Text.Utf8
import Attest.Yaml.Scan.State

/-!
# Names, tags and directives

A tag is written in full, or as a handle and what follows it. A directive stands at the start of a
line and fills it.
-/

namespace Attest.Yaml.Scan

def name : Scan String := do
  let cs ← takeWhile isNameChar
  demand !cs.isEmpty
  return String.ofList cs

def anchorName : Scan String := do
  forward 1
  let s ← name
  let next ← peek 0
  demand (isBlankOrEnd next || isOneOf "?:,]\x7d%@`" next)
  return s

def number : Scan Nat := do
  let cs := (← get).rest.takeWhile Char.isDigit
  reach cs.length
  demand !cs.isEmpty
  if Numeral.digitLimit < cs.length then throw (.badValue (Numeral.tooLongText cs.length))
  forward cs.length
  return Numeral.ofChars cs

/-- The handle of a tag: two marks with a name or nothing between them, or one mark and a space. -/
def tagHandle : Scan String := do
  demand ((← peek 0) = some '!')
  if (← peek 1) = some ' ' then
    forward 1
    return "!"
  forward 1
  let cs ← takeWhile isNameChar
  demand ((← peek 0) = some '!')
  forward 1
  return String.ofList ('!' :: cs ++ ['!'])

def isTagChar (c : Char) : Bool :=
  c.isAlphanum || "-;/?:@&=+$,_.!~*'()[]%".toList.contains c

def tagEscapes : List Char → Except Failure (Bytes × List Char)
  | '%' :: high :: low :: rest =>
    match Hex.value? high, Hex.value? low with
    | some h, some l => do
      let (bs, rest) ← tagEscapes rest
      return (UInt8.ofNat (16 * h + l) :: bs, rest)
    | _, _ => throw (.badYaml .token)
  | '%' :: _ => throw (.badYaml .token)
  | rest => return ([], rest)

/-- The text of a tag with its escapes read, as far as it goes. The fuel is more than its length. -/
def tagTextFrom : (fuel : Nat) → List Char → Except Failure (List Char)
  | 0, _ => return []
  | _, [] => return []
  | fuel + 1, '%' :: cs => do
    let (bs, rest) ← tagEscapes ('%' :: cs)
    match Utf8.decode bs with
    | .ok decoded => return decoded ++ (← tagTextFrom fuel rest)
    | .error _ => throw (.badYaml .token)
  | fuel + 1, c :: cs => return c :: (← tagTextFrom fuel cs)

def tagText : Scan String := do
  let cs := (← get).rest.takeWhile isTagChar
  let text ← tagTextFrom (cs.length + 1) cs
  forward cs.length
  demand !cs.isEmpty
  return String.ofList text

def directive : Scan Directive := do
  forward 1
  let title ← name
  demand (isSpaceOrEnd (← peek 0))
  let d ← match title with
    | "YAML" => do
      skipSpaces
      let major ← number
      demand ((← peek 0) = some '.')
      forward 1
      let _ ← number
      demand (isSpaceOrEnd (← peek 0))
      pure (Directive.version major)
    | "TAG" => do
      skipSpaces
      let handle ← tagHandle
      demand ((← peek 0) = some ' ')
      skipSpaces
      let text ← tagText
      demand (isSpaceOrEnd (← peek 0))
      pure (Directive.handle handle text)
    | _ => do
      let _ ← takeWhile (!isBreak ·)
      pure .other
  endLine
  return d

def tag : Scan Token := do
  let next ← peek 1
  let t ←
    if next = some '<' then do
      forward 2
      let text ← tagText
      demand ((← peek 0) = some '>')
      forward 1
      pure (Token.tag none text)
    else if isBlankOrEnd next then do
      forward 1
      pure (Token.tag none "!")
    else do
      let ahead := ((← get).rest.drop 1).takeWhile fun c => !isSpaceOrEnd (some c) && c ≠ '!'
      let handle ← if (← peek (ahead.length + 1)) = some '!' then tagHandle else do
        forward 1
        pure "!"
      pure (Token.tag (some handle) (← tagText))
  demand (isSpaceOrEnd (← peek 0))
  return t

end Attest.Yaml.Scan
