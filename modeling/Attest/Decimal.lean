import Attest.Binary64

/-!
# Shortest decimals

A finite floating-point number is written with the fewest decimal digits that read back as the same
number, and of those with the nearest. For one digit, two digits, and so on, the two neighbours of
the number on that decimal grid are tried; the numbers that read back form an interval, so the first
grid that has a point in it gives the answer.
-/

namespace Attest.Decimal

/-- Digits, as a number, and the power of ten that multiplies them. -/
structure Digits where
  significand : Nat
  exponent : Int
  deriving DecidableEq, Repr

/-- The least `k` with `num / den < 10 ^ k`, counting up from `k`. -/
def magnitudeUp (num den : Nat) : (fuel : Nat) → Int → Int
  | 0, k => k
  | fuel + 1, k =>
    let below : Bool := match k with
      | .ofNat j => num < den * Nat.pow 10 j
      | .negSucc j => num * Nat.pow 10 (j + 1) < den
    if below then k else magnitudeUp num den fuel (k + 1)

/-- The least `k` with `num / den < 10 ^ k`, for a positive ratio. The bit lengths give a start that
is too low by at most three. -/
def magnitude (num den : Nat) : Int :=
  let bits : Int := (Bytes.bitLength num : Int) - Bytes.bitLength den
  magnitudeUp num den 8 ((bits - 1) * 30103 / 100000 - 1)

/-- A positive number with the bounds of the interval of reals that read back as it, all three in
units of a quarter of its last place. -/
structure Interval where
  low : Nat
  value : Nat
  high : Nat
  closed : Bool
  deriving Repr

/-- The interval of `m * 2 ^ q`. Below a power of two the next number is half as far away, except at
the bottom of the range. -/
def intervalOf (m : Nat) (q : Int) : Interval where
  low := if m = Binary64.leadingBit ∧ -1074 < q then 4 * m - 1 else 4 * m - 2
  value := 4 * m
  high := 4 * m + 2
  closed := m % 2 = 0

/-- The point nearest to the number on the grid of multiples of `10 ^ k` among those in its
interval; `unit` is the ratio of the interval's unit to `10 ^ k`. -/
def nearestOnGrid (i : Interval) (unit : Nat × Nat) : Option Nat :=
  let (num, den) := unit
  let floor := i.value * num / den
  let inside (n : Nat) : Bool :=
    if i.closed then i.low * num ≤ n * den && n * den ≤ i.high * num
    else i.low * num < n * den && n * den < i.high * num
  let below := i.value * num - floor * den
  let above := (floor + 1) * den - i.value * num
  let preferred := if below < above ∨ (below = above ∧ floor % 2 = 0) then floor else floor + 1
  let other := if preferred = floor then floor + 1 else floor
  if preferred ≠ 0 && inside preferred then some preferred
  else if other ≠ 0 && inside other then some other
  else none

/-- The ratio of `2 ^ q` to `10 ^ k`. -/
def unitRatio (q k : Int) : Nat × Nat :=
  let two : Nat × Nat := match q with
    | .ofNat j => (Nat.pow 2 j, 1)
    | .negSucc j => (1, Nat.pow 2 (j + 1))
  let ten : Nat × Nat := match k with
    | .ofNat j => (1, Nat.pow 10 j)
    | .negSucc j => (Nat.pow 10 (j + 1), 1)
  (two.1 * ten.1, two.2 * ten.2)

/-- Tries grids from coarse to fine, `k` being the exponent of the first. -/
def search (i : Interval) (q : Int) : (fuel : Nat) → Int → Digits
  | 0, k => ⟨0, k⟩
  | fuel + 1, k =>
    match nearestOnGrid i (unitRatio (q - 2) k) with
    | some n => ⟨n, k⟩
    | none => search i q fuel (k - 1)

/-- The shortest digits of `m * 2 ^ q`; zero for zero. Seventeen digits always read back, and the
first grid may lie one above the number. -/
def shortest (m : Nat) (q : Int) : Digits :=
  if m = 0 then ⟨0, 0⟩
  else
    let i := intervalOf m q
    let r := unitRatio q 0
    search i q 20 (magnitude (m * r.1) r.2)

/-- How decimals are laid out: the range of decimal points that are written by position. -/
structure Layout where
  /-- With fewer places between the point and the first digit than this an exponent is written. -/
  leastPoint : Int
  /-- With more digits before the point than this an exponent is written. -/
  mostPoint : Int

/-- Numbers from `1e-4` up to but not including `1e16` are written by position. -/
def Layout.plain : Layout := ⟨-4, 16⟩

/-- The digits of `n` without the zeros at its end, and how many zeros there were. -/
def stripZeros (ds : List Char) : List Char × Nat :=
  let kept := (ds.reverse.dropWhile (· = '0')).reverse
  (kept, ds.length - kept.length)

/-- Writes digits. A number written by position has at least one digit on each side of the point; an
exponent has a sign and at least two digits. -/
def Layout.write (layout : Layout) (d : Digits) : String :=
  let (ds, zeros) := stripZeros (Nat.toDigits 10 d.significand)
  if ds.isEmpty then "0.0"
  else
    let point : Int := ds.length + d.exponent + zeros
    if layout.leastPoint < point ∧ point ≤ layout.mostPoint then
      if point ≤ 0 then
        String.ofList ("0.".toList ++ List.replicate (-point).toNat '0' ++ ds)
      else
        let before := point.toNat
        let whole := ds.take before ++ List.replicate (before - ds.length) '0'
        let part := ds.drop before
        String.ofList (whole ++ '.' :: (if part.isEmpty then ['0'] else part))
    else
      let exponent := point - 1
      let size := Nat.toDigits 10 exponent.natAbs
      let size := if size.length < 2 then '0' :: size else size
      let part := ds.drop 1
      String.ofList (ds.take 1 ++ (if part.isEmpty then [] else '.' :: part) ++
        'e' :: (if exponent < 0 then '-' else '+') :: size)

/-- A finite number as text; `none` for infinities and the number that is no number. -/
def write? (x : Binary64) : Option String :=
  match x.datum with
  | .finite negative m q =>
    some ((if negative then "-" else "") ++ Layout.plain.write (shortest m q))
  | _ => none

end Attest.Decimal
