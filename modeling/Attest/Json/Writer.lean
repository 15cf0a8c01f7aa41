import Attest.Value

/-!
# Writing JSON

A value is written on one line, or with each item and field on a line of its own behind an
indentation. All characters outside printable ASCII are escaped, those beyond 16 bits as a pair of
escapes.
-/

namespace Attest.Json

/-- The layout: one line, or lines indented by copies of a text. -/
inductive Layout where
  | line
  | indented (unit : List Char)
  deriving DecidableEq

namespace Layout

def spaces (n : Nat) : Layout :=
  .indented (List.replicate n ' ')

def lineBreak : Layout → (depth : Nat) → List Char
  | line, _ => []
  | indented unit, depth => '\n' :: (List.replicate depth unit).flatten

def separator : Layout → (depth : Nat) → List Char
  | line, _ => [',', ' ']
  | indented unit, depth => ',' :: lineBreak (indented unit) depth

end Layout

def unitEscape (v : Nat) : List Char :=
  Quoted.backslash :: 'u' :: Quoted.hexDigits 4 v

def escape (c : Char) : List Char :=
  if c = Quoted.double ∨ c = Quoted.backslash then [Quoted.backslash, c]
  else if c = '\n' then [Quoted.backslash, 'n']
  else if c = '\r' then [Quoted.backslash, 'r']
  else if c = '\t' then [Quoted.backslash, 't']
  else if c = '\x08' then [Quoted.backslash, 'b']
  else if c = '\x0c' then [Quoted.backslash, 'f']
  else if ' ' ≤ c ∧ c ≤ '~' then [c]
  else
    let n := (Text.half? c).getD c.toNat
    if n < 0x10000 then unitEscape n
    else
      unitEscape (0xd800 + (n - 0x10000) / 0x400) ++ unitEscape (0xdc00 + (n - 0x10000) % 0x400)

def writeText (s : String) : List Char :=
  Quoted.double :: s.toList.flatMap escape ++ [Quoted.double]

def writeFloat (x : Binary64) : List Char :=
  match Decimal.write? x with
  | some s => s.toList
  | none =>
    match x.datum with
    | .infinite negative => (if negative then "-Infinity" else "Infinity").toList
    | _ => "NaN".toList

mutual

def writeValue (layout : Layout) (depth : Nat) : Value → List Char
  | .null => "null".toList
  | .bool b => (if b then "true" else "false").toList
  | .int n => (toString n).toList
  | .float x => writeFloat x
  | .text s => writeText s
  | .list [] => ['[', ']']
  | .list (v :: vs) =>
    '[' :: layout.lineBreak (depth + 1) ++ writeValue layout (depth + 1) v ++
      writeItems layout (depth + 1) vs ++ layout.lineBreak depth ++ [']']
  | .object [] => ['\x7b', '\x7d']
  | .object ((name, v) :: fields) =>
    '\x7b' :: layout.lineBreak (depth + 1) ++ writeText name ++ ':' :: ' ' ::
      writeValue layout (depth + 1) v ++ writeFields layout (depth + 1) fields ++
      layout.lineBreak depth ++ ['\x7d']

def writeItems (layout : Layout) (depth : Nat) : List Value → List Char
  | [] => []
  | v :: vs => layout.separator depth ++ writeValue layout depth v ++ writeItems layout depth vs

def writeFields (layout : Layout) (depth : Nat) : List (String × Value) → List Char
  | [] => []
  | (name, v) :: fields =>
    layout.separator depth ++ writeText name ++ ':' :: ' ' :: writeValue layout depth v ++
      writeFields layout depth fields

end

def write (layout : Layout) (v : Value) : String :=
  String.ofList (writeValue layout 0 v)

end Attest.Json
