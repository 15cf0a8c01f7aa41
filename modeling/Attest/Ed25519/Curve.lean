import Attest.Bytes

/-!
# The twisted Edwards curve of Ed25519

Numbers are taken modulo `2 ^ 255 - 19`. Points are held in extended coordinates, in which one
addition formula serves all pairs of points, so doubling needs no formula of its own.
-/

namespace Attest.Ed25519

def prime : Nat := Nat.pow 2 255 - 19

def order : Nat := Nat.pow 2 252 + 27742317777372353535851937790883648493

@[inline] def mul (a b : Nat) : Nat := a * b % prime

@[inline] def add (a b : Nat) : Nat := (a + b) % prime

@[inline] def sub (a b : Nat) : Nat := (a + prime - b) % prime

def power (a n : Nat) : Nat :=
  if n = 0 then 1
  else
    let half := power (mul a a) (n / 2)
    if n % 2 = 1 then mul a half else half
termination_by n
decreasing_by omega

def inverse (a : Nat) : Nat :=
  power a (prime - 2)

/-- The curve's coefficient, `-121665 / 121666`. -/
def coefficient : Nat :=
  mul (sub 0 121665) (inverse 121666)

def rootOfMinusOne : Nat :=
  power 2 ((prime - 1) / 4)

/-- A point with `x = X / Z`, `y = Y / Z` and `x * y = T / Z`. -/
structure Point where
  X : Nat
  Y : Nat
  Z : Nat
  T : Nat
  deriving DecidableEq, Repr

namespace Point

def zero : Point := ⟨0, 1, 1, 0⟩

def ofAffine (x y : Nat) : Point := ⟨x, y, 1, mul x y⟩

def plus (p q : Point) : Point :=
  let a := mul (sub p.Y p.X) (sub q.Y q.X)
  let b := mul (add p.Y p.X) (add q.Y q.X)
  let c := mul (mul p.T (2 * coefficient)) q.T
  let d := mul (2 * p.Z) q.Z
  let e := sub b a
  let f := sub d c
  let g := add d c
  let h := add b a
  ⟨mul e f, mul g h, mul f g, mul e h⟩

def negate (p : Point) : Point :=
  ⟨sub 0 p.X, p.Y, p.Z, sub 0 p.T⟩

def times (n : Nat) (p : Point) : Point :=
  if n = 0 then zero
  else
    let half := times (n / 2) (p.plus p)
    if n % 2 = 1 then half.plus p else half
termination_by n
decreasing_by omega

/-- The top bit of 32 bytes, which holds a point's sign. -/
def signBit : Nat := Nat.pow 2 255

/-- The 32 bytes of a point: `y`, and the lowest bit of `x` as the top bit. -/
def encode (p : Point) : Bytes :=
  let z := inverse p.Z
  let x := mul p.X z
  let y := mul p.Y z
  Bytes.littleEndian 32 (y + x % 2 * signBit)

@[simp] theorem length_encode (p : Point) : p.encode.length = 32 := by
  simp [encode]

def rootOfRatio? (u v : Nat) : Option Nat :=
  let v3 := mul (mul v v) v
  let v7 := mul (mul v3 v3) v
  let x := mul (mul u v3) (power (mul u v7) ((prime - 5) / 8))
  let check := mul v (mul x x)
  if check = u then some x
  else if check = sub 0 u then some (mul x rootOfMinusOne)
  else none

/-- The point of 32 bytes. A `y` of the prime or more is taken modulo the prime, and the sign of a
zero `x` is not looked at. -/
def decode? (bs : Bytes) : Option Point :=
  let n := Bytes.toNatLittle bs
  let y := n % signBit % prime
  let sign := n / signBit
  let y2 := mul y y
  (rootOfRatio? (sub y2 1) (add (mul coefficient y2) 1)).map fun x =>
    ofAffine (if x % 2 = sign then x else sub 0 x) y

/-- The base point: `y` is `4 / 5` and `x` is even. -/
def base : Point :=
  ofAffine
    15112221349535400772501151409588531511454012693041857206046113283949847762202
    46316835694926478169428394003475163141307993866256225615783033603165251855960

end Point

end Attest.Ed25519
