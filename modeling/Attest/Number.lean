import Attest.Binary64.Arithmetic
import Attest.Failure

/-!
# Numbers of two kinds

Data may hold whole numbers of any size and floating-point numbers. They are compared by what they
are worth, exactly; an operation on two whole numbers is exact, and with a floating-point number it
is carried out on the floating-point numbers nearest to its operands. A truth value counts as one or
zero.
-/

namespace Attest

/-- A number: a whole one or a floating-point one. -/
inductive Number where
  | int (n : Int)
  | float (x : Binary64)
  deriving DecidableEq, Repr

namespace Number

/-- How two numbers compare; `none` if one of them is no number. -/
def compare : Number → Number → Option Ordering
  | int a, int b => some (Ord.compare a b)
  | float x, int b => x.compareInt b
  | int a, float y => (y.compareInt a).map Ordering.swap
  | float x, float y => x.compare y

def isLess (a b : Number) : Bool :=
  a.compare b = some .lt

def isAtMost (a b : Number) : Bool :=
  a.isLess b || a.compare b = some .eq

@[simp] theorem isLess_int (a b : Int) : (int a).isLess (int b) = decide (a < b) := by
  simp [isLess, compare, Int.compare_eq_lt]

@[simp] theorem isAtMost_int (a b : Int) : (int a).isAtMost (int b) = decide (a ≤ b) := by
  rw [isAtMost, isLess_int, compare]
  simp [Int.le_iff_lt_or_eq]

/-- The first of two numbers, unless the second is greater. -/
def max (a b : Number) : Number :=
  if a.isLess b then b else a

/-- The first of two numbers, unless the second is less. -/
def min (a b : Number) : Number :=
  if b.isLess a then b else a

def toFloat : Number → Except Failure Binary64
  | int n =>
    match Binary64.ofInt? n with
    | some x => .ok x
    | none => .error (.overflow "int too large to convert to float")
  | float x => .ok x

def combine (onInts : Int → Int → Int) (onFloats : Binary64 → Binary64 → Binary64)
    (a b : Number) : Except Failure Number :=
  match a, b with
  | int m, int n => .ok (int (onInts m n))
  | a, b => do return float (onFloats (← a.toFloat) (← b.toFloat))

def mul : Number → Number → Except Failure Number :=
  combine (· * ·) Binary64.mul

def floorDiv : Number → Number → Except Failure Number :=
  combine Int.fdiv Binary64.floorDiv

def isEven : Number → Bool
  | int n => n % 2 = 0
  | float x => x.toInt?.any (· % 2 = 0)

/-- Half of a number, rounded down. What has no whole part stays as it is: it is neither even nor
zero, and no half of it is. -/
def half : Number → Number
  | int n => int (n / 2)
  | float x =>
    match x.toInt? <|> x.floor.toInt? with
    | some n => int (n / 2)
    | none => float x

/-! ## Residues -/

def residuePrime : Nat := Nat.pow 2 61 - 1

def infiniteResidue : Nat := 314159

/-- A residue of a sign. Minus one is no residue; minus two takes its place. -/
def signedResidue (negative : Bool) (r : Nat) : Int :=
  let r := r % residuePrime
  if negative then if r = 1 then -2 else -(r : Int) else r

/-- The residue of a number, the same for all numbers that compare as equal. Two to the 61st is one,
so that negative powers of two are positive ones. That which is no number has none. -/
def residue? : Number → Option Int
  | int n => some (signedResidue (n < 0) n.natAbs)
  | float x =>
    match x.datum with
    | .finite negative m q => some (signedResidue negative (m * Nat.pow 2 (q % 61).toNat))
    | .infinite negative => some (signedResidue negative infiniteResidue)
    | .nan => none

end Number

namespace Value

def number? : Value → Option Number
  | bool b => some (.int (if b then 1 else 0))
  | int n => some (.int n)
  | float x => some (.float x)
  | _ => none

def whole? : Value → Option Int
  | bool b => some (if b then 1 else 0)
  | int n => some n
  | _ => none

def ofNumber : Number → Value
  | .int n => int n
  | .float x => float x

def comparable (operator : String) (v : Value) : Except Failure Number :=
  match v.number? with
  | some x => .ok x
  | none => .error (.incomparable operator v.kind (int 0).kind)

/-- The number that data is, or the failure of an operation on other data and a whole number. -/
def operand (operator : String) (v : Value) : Except Failure Number :=
  match v.number? with
  | some x => .ok x
  | none => .error (.unsupported operator v.kind (int 0).kind)

end Value

end Attest
