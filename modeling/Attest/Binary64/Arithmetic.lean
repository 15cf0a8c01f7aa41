import Attest.Binary64

/-!
# Arithmetic with floating-point numbers

A result is the number nearest to the exact one, a half going to the even significand. A sum or
product of finite numbers is exact in integers before it is rounded.
-/

namespace Attest.Binary64

def ofScaled (negative : Bool) (n : Nat) (q : Int) : Binary64 :=
  match q with
  | .ofNat k => ofRatio negative (n * Nat.pow 2 k) 1
  | .negSucc k => ofRatio negative n (Nat.pow 2 (k + 1))

/-- The number nearest to an integer, unless that is out of the range of finite numbers. -/
def ofInt? (n : Int) : Option Binary64 :=
  let x := ofScaled (n < 0) n.natAbs 0
  if x.isFinite then some x else none

def signedBy (negative : Bool) (m : Nat) : Int :=
  if negative then -m else m

/-- A significand of exponent `q` for the exponent `e`, which is no greater. -/
def aligned (m : Nat) (q e : Int) : Nat :=
  m * Nat.pow 2 (q - e).toNat

/-- The sum of two numbers. Zero is negative only as a sum of negative zeros. -/
def add (x y : Binary64) : Binary64 :=
  match x.datum, y.datum with
  | .nan, _ | _, .nan => nan
  | .infinite a, .infinite b => if a = b then infinity a else nan
  | .infinite a, _ => infinity a
  | _, .infinite b => infinity b
  | .finite a m q, .finite b n r =>
    let e := min q r
    let sum := signedBy a (aligned m q e) + signedBy b (aligned n r e)
    if sum = 0 then ofMagnitudeBits (a && b) 0 else ofScaled (sum < 0) sum.natAbs e

def negate (x : Binary64) : Binary64 :=
  ⟨x.bits ^^^ 0x8000000000000000⟩

def sub (x y : Binary64) : Binary64 :=
  x.add y.negate

def mul (x y : Binary64) : Binary64 :=
  let negative := x.isNegative != y.isNegative
  match x.datum, y.datum with
  | .nan, _ | _, .nan => nan
  | .infinite _, .infinite _ => infinity negative
  | .infinite _, .finite _ n _ => if n = 0 then nan else infinity negative
  | .finite _ m _, .infinite _ => if m = 0 then nan else infinity negative
  | .finite _ m q, .finite _ n r => ofScaled negative (m * n) (q + r)

def div (x y : Binary64) : Binary64 :=
  let negative := x.isNegative != y.isNegative
  match x.datum, y.datum with
  | .nan, _ | _, .nan => nan
  | .infinite _, .infinite _ => nan
  | .infinite _, .finite .. => infinity negative
  | .finite .., .infinite _ => ofMagnitudeBits negative 0
  | .finite _ m q, .finite _ n r =>
    let e := min q r
    ofRatio negative (aligned m q e) (aligned n r e)

def rem (x y : Binary64) : Binary64 :=
  match x.datum, y.datum with
  | .nan, _ | _, .nan => nan
  | .infinite _, _ => nan
  | .finite .., .infinite _ => x
  | .finite a m q, .finite _ n r =>
    let e := min q r
    ofScaled a (aligned m q e % aligned n r e) e

def floor (x : Binary64) : Binary64 :=
  match x.datum with
  | .finite negative m (.negSucc k) =>
    let n := signedBy negative m / Nat.pow 2 (k + 1)
    ofScaled negative n.natAbs 0
  | _ => x

/-- How two numbers compare; `none` if one of them is no number. -/
def compare (x y : Binary64) : Option Ordering :=
  match y.datum with
  | .nan => none
  | .infinite b =>
    match x.datum with
    | .nan => none
    | .infinite a => some (if a = b then .eq else if b then .gt else .lt)
    | .finite .. => some (if b then .gt else .lt)
  | .finite b n r =>
    match x.datum with
    | .nan => none
    | .infinite a => some (if a then .lt else .gt)
    | .finite a m q =>
      let e := min q r
      some (Ord.compare (signedBy a (aligned m q e)) (signedBy b (aligned n r e)))

def one : Binary64 :=
  ofScaled false 1 0

def half : Binary64 :=
  ofRatio false 1 2

/-- The whole part of a quotient by a positive number, as it comes out in rounded steps: what is
left by division is taken off first, and the quotient snaps to the nearest whole number. -/
def floorDiv (x y : Binary64) : Binary64 :=
  let left := x.rem y
  let quotient := (x.sub left).div y
  let quotient :=
    if !left.isZero && y.isNegative != (left.compareInt 0 = some .lt) then quotient.sub one
    else quotient
  if quotient.isZero then ofMagnitudeBits (x.div y).isNegative 0
  else
    let whole := quotient.floor
    if (quotient.sub whole).compare half = some .gt then whole.add one else whole

end Attest.Binary64
