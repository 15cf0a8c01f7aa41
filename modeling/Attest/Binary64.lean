import Attest.Bytes

/-!
# Binary floating-point numbers

A 64-bit floating-point number is held as its bits. A finite one is an integer times a power of two,
so reading a decimal, comparing with an integer and finding the shortest decimal that reads back are
exact integer arithmetic.
-/

namespace Attest

structure Binary64 where
  bits : UInt64
  deriving DecidableEq, Repr

namespace Binary64

/-- What the bits stand for; `finite negative m q` is `m * 2 ^ q`, negated if `negative`. -/
inductive Datum where
  | finite (negative : Bool) (significand : Nat) (exponent : Int)
  | infinite (negative : Bool)
  | nan
  deriving DecidableEq, Repr

/-- The least significand with its leading bit, which is not written: the numbers below it fill the
fraction's 52 bits. -/
def leadingBit : Nat := Nat.pow 2 52

def signBit : Nat := Nat.pow 2 63

def isNegative (x : Binary64) : Bool :=
  signBit ≤ x.bits.toNat

def datum (x : Binary64) : Datum :=
  let exponent : Nat := x.bits.toNat / leadingBit % 2048
  let fraction : Nat := x.bits.toNat % leadingBit
  if exponent = 2047 then
    if fraction = 0 then .infinite x.isNegative else .nan
  else if exponent = 0 then .finite x.isNegative fraction (-1074)
  else .finite x.isNegative (leadingBit + fraction) (exponent - 1075)

/-- The number with the given sign whose other bits spell `n`. -/
def ofMagnitudeBits (negative : Bool) (n : Nat) : Binary64 :=
  ⟨UInt64.ofNat (n + if negative then signBit else 0)⟩

def infinity (negative : Bool) : Binary64 :=
  ofMagnitudeBits negative (2047 * leadingBit)

def nan : Binary64 :=
  ⟨0x7ff8000000000000⟩

/-- The integer nearest to `num / den`, a half going to the even one. -/
def roundRatio (num den : Nat) : Nat :=
  let floor := num / den
  let twice := 2 * (num % den)
  if den < twice ∨ (twice = den ∧ floor % 2 = 1) then floor + 1 else floor

/-- The nearest number to `num / den * 2 ^ (-q)` in units of one, with a numerator or denominator
scaled by the power of two. -/
def scaledRatio (num den : Nat) (q : Int) : Nat × Nat :=
  match q with
  | .ofNat k => (num, den * Nat.pow 2 k)
  | .negSucc k => (num * Nat.pow 2 (k + 1), den)

/-- The floating-point number nearest to `num / den`, a half going to the even significand. -/
def ofRatio (negative : Bool) (num den : Nat) : Binary64 :=
  if num = 0 then ofMagnitudeBits negative 0
  else
    let guess : Int := (Bytes.bitLength num : Int) - Bytes.bitLength den - 53
    let floorAt (q : Int) : Nat := let r := scaledRatio num den q; r.1 / r.2
    let q := max (if 2 * leadingBit ≤ floorAt guess then guess + 1 else guess) (-1074)
    let r := scaledRatio num den q
    let m := roundRatio r.1 r.2
    let (m, q) := if m = 2 * leadingBit then (leadingBit, q + 1) else (m, q)
    if 971 < q then infinity negative
    else if m < leadingBit then ofMagnitudeBits negative m
    else ofMagnitudeBits negative ((q + 1075).toNat * leadingBit + (m - leadingBit))

/-- The number of decimal digits of `n`; zero has one. -/
def decimalLength (n : Nat) : Nat :=
  (Nat.toDigits 10 n).length

/-- The floating-point number nearest to `digits * 10 ^ exponent`. Numbers far outside the range
are recognised by their length alone. -/
def ofDecimal (negative : Bool) (digits : Nat) (exponent : Int) : Binary64 :=
  let magnitude : Int := decimalLength digits + exponent
  if digits = 0 ∨ magnitude < -400 then ofMagnitudeBits negative 0
  else if 400 < magnitude then infinity negative
  else match exponent with
    | .ofNat k => ofRatio negative (digits * Nat.pow 10 k) 1
    | .negSucc k => ofRatio negative digits (Nat.pow 10 (k + 1))

def isZero (x : Binary64) : Bool :=
  match x.datum with
  | .finite _ m _ => m = 0
  | _ => false

/-- The integer that the number equals, if it is finite and a whole number. -/
def toInt? (x : Binary64) : Option Int :=
  match x.datum with
  | .finite negative m q =>
    let whole : Option Nat := match q with
      | .ofNat k => some (m * Nat.pow 2 k)
      | .negSucc k => if m % Nat.pow 2 (k + 1) = 0 then some (m / Nat.pow 2 (k + 1)) else none
    whole.map fun (n : Nat) => if negative then -(n : Int) else n
  | _ => none

def isFinite (x : Binary64) : Bool :=
  match x.datum with
  | .finite .. => true
  | _ => false

/-- How the number compares with an integer; `none` for the number that is no number. -/
def compareInt (x : Binary64) (n : Int) : Option Ordering :=
  match x.datum with
  | .finite negative m q =>
    let signed : Int := if negative then -(m : Int) else m
    match q with
    | .ofNat k => some (compare (signed * Nat.pow 2 k) n)
    | .negSucc k => some (compare signed (n * Nat.pow 2 (k + 1)))
  | .infinite negative => some (if negative then .lt else .gt)
  | .nan => none

end Binary64

end Attest
