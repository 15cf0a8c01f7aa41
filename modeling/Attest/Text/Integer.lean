import Attest.Text.Blank
import Attest.Text.Quoted

/-!
# Integers

The reader of whole numbers in settings and arguments: blanks around, one sign, decimal digits of
any script, single underscores between digits. Decimal numerals of more than `digitLimit` digits are
refused. Numerals to the bases two, eight and sixteen may have a mark before their digits.
-/

namespace Attest.Numeral

/-- The most digits a numeral may have. -/
def digitLimit : Nat := 4300

/-- Where the decimal digits of each script begin; each run has the ten digits in order. -/
def digitRuns : Array Nat := #[
  0x660, 0x6f0, 0x7c0, 0x966, 0x9e6, 0xa66, 0xae6, 0xb66, 0xbe6, 0xc66, 0xce6, 0xd66, 0xde6,
  0xe50, 0xed0, 0xf20, 0x1040, 0x1090, 0x17e0, 0x1810, 0x1946, 0x19d0, 0x1a80, 0x1a90, 0x1b50,
  0x1bb0, 0x1c40, 0x1c50, 0xa620, 0xa8d0, 0xa900, 0xa9d0, 0xa9f0, 0xaa50, 0xabf0, 0xff10,
  0x104a0, 0x10d30, 0x11066, 0x110f0, 0x11136, 0x111d0, 0x112f0, 0x11450, 0x114d0, 0x11650,
  0x116c0, 0x11730, 0x118e0, 0x11950, 0x11c50, 0x11d50, 0x11da0, 0x16a60, 0x16ac0, 0x16b50,
  0x1d7ce, 0x1d7d8, 0x1d7e2, 0x1d7ec, 0x1d7f6, 0x1e140, 0x1e2f0, 0x1e950, 0x1fbf0]

def digit? (c : Char) : Option Nat :=
  let n := c.toNat
  if n < 128 then (if 48 ≤ n ∧ n ≤ 57 then some (n - 48) else none)
  else (digitRuns.find? fun start => start ≤ n && n < start + 10).map (n - ·)

inductive Refusal where
  | malformed
  | tooLong (digits : Nat)
  deriving DecidableEq, Repr

/-- The digits at the front of a text, by the values `value?` of its characters, with single
underscores between them left out, and what follows them. There is none when the text starts with no
digit or an underscore is out of place. -/
def takeDigits (value? : Char → Option Nat) (acc : List Nat) :
    List Char → Option (List Nat × List Char)
  | [] => if acc.isEmpty then none else some (acc.reverse, [])
  | '_' :: rest =>
    if acc.isEmpty then none
    else match rest with
      | [] => none
      | c :: rest =>
        match value? c with
        | none => none
        | some d => takeDigits value? (d :: acc) rest
  | c :: rest =>
    match value? c with
    | none => if acc.isEmpty then none else some (acc.reverse, c :: rest)
    | some d => takeDigits value? (d :: acc) rest

def ofDigits (base : Nat) (ds : List Nat) : Nat :=
  ds.foldl (fun n d => base * n + d) 0

def ofChars (cs : List Char) : Nat :=
  cs.foldl (fun n c => 10 * n + (c.toNat - 48)) 0

def padded (width n : Nat) : String :=
  let digits := Nat.toDigits 10 n
  String.ofList (List.replicate (width - digits.length) '0' ++ digits)

def isBlank (c : Char) : Bool :=
  Text.isBlank c

def splitSign : List Char → Bool × List Char
  | '-' :: rest => (true, rest)
  | '+' :: rest => (false, rest)
  | cs => (false, cs)

def signed (negative : Bool) (n : Nat) : Int :=
  if negative then -n else n

def parse (s : String) : Except Refusal Int :=
  let (negative, cs) := splitSign (s.toList.dropWhile isBlank)
  match takeDigits digit? [] cs with
  | none => .error .malformed
  | some (ds, rest) =>
    if digitLimit < ds.length then .error (.tooLong ds.length)
    else if rest.all isBlank then .ok (signed negative (ofDigits 10 ds))
    else .error .malformed

/-! ## Other bases -/

def digitIn? (base : Nat) (c : Char) : Option Nat :=
  (digit? c <|> Hex.value? c).filter (· < base)

def baseMarks : Nat → List Char
  | 2 => ['b', 'B']
  | 8 => ['o', 'O']
  | 16 => ['x', 'X']
  | _ => []

/-- The digits without the mark of their base, after which there may be an underscore. -/
def unmark (base : Nat) : List Char → List Char
  | '0' :: c :: rest =>
    if (baseMarks base).contains c then
      match rest with
      | '_' :: rest => rest
      | rest => rest
    else '0' :: c :: rest
  | cs => cs

/-- Reads a numeral to the base two, eight or sixteen, of any length. -/
def parseIn (base : Nat) (s : String) : Except Refusal Int :=
  let (negative, cs) := splitSign (s.toList.dropWhile isBlank)
  match takeDigits (digitIn? base) [] (unmark base cs) with
  | none => .error .malformed
  | some (ds, rest) =>
    if rest.all isBlank then .ok (signed negative (ofDigits base ds)) else .error .malformed

/-! ## Writing -/

/-- Whether a number can be written: it has at most `digitLimit` decimal digits. -/
@[irreducible] def isWritable (n : Int) : Bool :=
  n.natAbs < Nat.pow 10 digitLimit

/-- What is said where a number that cannot be written would have to be. -/
def unwritableText : String :=
  s!"Exceeds the limit ({digitLimit} digits) for integer string conversion; " ++
    "use sys.set_int_max_str_digits() to increase the limit"

/-! ## Refusals -/

/-- What is said of a numeral with `n` digits when that is too many. -/
def tooLongText (n : Nat) : String :=
  s!"Exceeds the limit ({digitLimit} digits) for integer string conversion: " ++
    s!"value has {n} digits; use sys.set_int_max_str_digits() to increase the limit"

def shownLength : Nat := 200

def malformedText (base : Nat) (s : String) : String :=
  s!"invalid literal for int() with base {base}: " ++
    String.ofList ((Quoted.encode s).toList.take shownLength)

def Refusal.message (base : Nat) (s : String) : Refusal → String
  | malformed => malformedText base s
  | tooLong digits => tooLongText digits

end Attest.Numeral
