import Attest.Binary64.Arithmetic
import Attest.Failure
import Attest.Text.Lower
import Attest.Text.Scientific
import Attest.Yaml.Stamp
import Attest.Yaml.Tag

/-!
# Scalars of YAML

What the text of a scalar stands for by its kind. Numbers may have underscores between their digits,
be written to the bases two, eight and sixteen, or have digits to base sixty between colons.
-/

namespace Attest.Yaml

inductive Scalar where
  | null
  | bool (b : Bool)
  | int (n : Int)
  | float (x : Binary64)
  | text (s : String)
  | date (shown : String)
  | time (shown : String)
  | bytes (bs : Bytes)
  deriving DecidableEq, Repr

namespace Scalar

def parts (cs : List Char) : List String :=
  (String.ofList cs).splitOn ":"

def dropUnderscores (s : String) : List Char :=
  s.toList.filter (· ≠ '_')

def noCharacter {α : Type} : Except Failure α :=
  .error (.badIndex "string index out of range")

/-- Whether a text begins with a minus sign, and what follows its sign. The text may not be empty.
-/
def splitSign : List Char → Except Failure (Bool × List Char)
  | [] => noCharacter
  | cs => .ok (Numeral.splitSign cs)

/-! ## Whole numbers -/

def decimal (s : String) : Except Failure Int :=
  (Numeral.parse s).mapError fun r => .badValue (r.message 10 s)

/-- The number that a text spells to another base. -/
def numberIn (base : Nat) (cs : List Char) : Except Failure Int :=
  let s := String.ofList cs
  (Numeral.parseIn base s).mapError fun r => .badValue (r.message base s)

def magnitude : List Char → Except Failure Int
  | [] => noCharacter
  | ['0'] => .ok 0
  | '0' :: 'b' :: rest => numberIn 2 rest
  | '0' :: 'x' :: rest => numberIn 16 rest
  | '0' :: rest => numberIn 8 ('0' :: rest)
  | cs => do
    let ns ← (parts cs).mapM decimal
    return ns.foldl (fun n d => 60 * n + d) 0

def ofInteger (s : String) : Except Failure Scalar := do
  let (negative, cs) ← splitSign (dropUnderscores s)
  let n ← magnitude cs
  return .int (if negative then -n else n)

/-! ## Floating-point numbers -/

def real (s : String) : Except Failure Binary64 :=
  match Scientific.parse s with
  | some x => .ok x
  | none => .error (.badValue (Scientific.refusal s))

def realOfInt (n : Int) : Except Failure Binary64 :=
  match Binary64.ofInt? n with
  | some x => .ok x
  | none => .error (.overflow "int too large to convert to float")

/-- The number that digits to base sixty spell, the last digit first; each step is rounded. -/
def sumSixties (sum : Binary64) (unit : Nat) : List Binary64 → Except Failure Binary64
  | [] => .ok sum
  | x :: rest => do
    let place ← realOfInt unit
    sumSixties (sum.add (x.mul place)) (60 * unit) rest

def ofFloat (s : String) : Except Failure Scalar := do
  let (negative, body) ← splitSign (Text.lower (String.ofList (dropUnderscores s))).toList
  let x ← match String.ofList body with
    | ".inf" => pure (Binary64.infinity false)
    | ".nan" => return .float .nan
    | word =>
      if body.contains ':' then do
        let xs ← (parts body).mapM real
        sumSixties (.ofMagnitudeBits false 0) 1 xs.reverse
      else real word
  return .float (if negative then x.negate else x)

/-! ## Other scalars -/

def ofTruth (s : String) : Except Failure Scalar :=
  let word := Text.lower s
  match Form.truthWords.lookup word with
  | some b => .ok (.bool b)
  | none => .error (.badKey (Quoted.encode word))

def ofTime (s : String) : Except Failure Scalar := do
  match Stamp.read (Form.dropLineFeed s).toList with
  | none => throw (.lacksAttribute "NoneType" "groupdict")
  | some stamp =>
    stamp.check
    return match stamp.clock with
      | none => .date stamp.showDate
      | some clock => .time (stamp.showDate ++ " " ++ Stamp.showClock clock)

def sixBits? (c : Char) : Option Nat :=
  let n := c.toNat
  if 65 ≤ n ∧ n ≤ 90 then some (n - 65)
  else if 97 ≤ n ∧ n ≤ 122 then some (n - 71)
  else if 48 ≤ n ∧ n ≤ 57 then some (n + 4)
  else if c = '+' then some 62
  else if c = '/' then some 63
  else none

/-- The bytes that groups of six bits spell, four of them for three bytes. -/
def ofGroups : List Nat → Bytes
  | a :: b :: c :: d :: rest =>
    Bytes.bigEndian 3 (64 * (64 * (64 * a + b) + c) + d) ++ ofGroups rest
  | [a, b, c] => Bytes.bigEndian 2 ((64 * (64 * a + b) + c) / 4)
  | [a, b] => Bytes.bigEndian 1 ((64 * a + b) / 16)
  | _ => []

/-- The groups of six bits of a text up to the marks that fill up the last four; `place` of four are
there, and `marks` marks after them. Marks elsewhere and other characters are skipped. -/
def groups (place marks : Nat) : List Char → Option (List Nat)
  | [] => if place = 0 then some [] else none
  | c :: rest =>
    if c = '=' then
      if place < 2 then groups place marks rest
      else if 4 ≤ place + marks + 1 then some []
      else groups place (marks + 1) rest
    else
      match sixBits? c with
      | some n => (groups ((place + 1) % 4) 0 rest).map (n :: ·)
      | none => groups place marks rest

def ofBytes (s : String) : Except Failure Scalar :=
  let cs := s.toList
  match groups 0 0 cs with
  | some ns =>
    if cs.all (·.toNat < 128) then .ok (.bytes (ofGroups ns)) else .error (.badYaml .construction)
  | none => .error (.badYaml .construction)

end Scalar

def Scalar.read (tag : Tag) (s : String) : Except Failure Scalar :=
  match tag with
  | .null => .ok .null
  | .bool => Scalar.ofTruth s
  | .int => Scalar.ofInteger s
  | .float => Scalar.ofFloat s
  | .text => .ok (.text s)
  | .time => Scalar.ofTime s
  | .bytes => Scalar.ofBytes s
  | _ => .error (.badYaml .construction)

end Attest.Yaml
