import Attest.Digest
import Attest.Given

/-!
# Targets

A digest meets a target when the number it spells is at most the target's. A target may be given by
the number of leading zero bits it asks for, or in compact form: one byte for the size in bytes and
three for the leading digits, of which the top bit is a sign that is never set. Targets are adjusted
by the ratio of the time that an interval took to the time that it should have taken.
-/

namespace Attest.Target

inductive Refusal where
  | outOfRange (n : Int)
  | badDifficulty (bits : Int)
  | compactOutOfRange (code : Int)
  | compactNegative (code : Nat)
  | compactOverflow (code : Nat)
  | badExpectedTime (time : Int)
  deriving DecidableEq, Repr

/-- The hexadecimal digits of a number, at least `width` of them. -/
def hexPadded (width n : Nat) : String :=
  let ds := Nat.toDigits 16 n
  String.ofList (List.replicate (width - ds.length) '0' ++ ds)

def showCompact (code : Nat) : String :=
  "0x" ++ hexPadded 8 code

def showHex (n : Int) : String :=
  (if n < 0 then "-0x" else "0x") ++ hexPadded 1 n.natAbs

def Refusal.message : Refusal → String
  | outOfRange n => (Value.int n).tell s!"Target out of range for a 256-bit value: {n}"
  | badDifficulty bits => (Value.int bits).tell s!"Difficulty bits must be in 0..256, got {bits}"
  | compactOutOfRange code => s!"Compact target must fit in 32 bits, got {showHex code}"
  | compactNegative code => s!"Negative compact target: {showCompact code}"
  | compactOverflow code => s!"Compact target overflows 256 bits: {showCompact code}"
  | badExpectedTime time => (Value.int time).tell s!"Expected time must be positive, got {time}"

def Refusal.failure (r : Refusal) : Failure :=
  .badValue r.message

/-- A target as it is given: a digest, or a number that may be out of range. -/
inductive Input where
  | digest (d : Digest)
  | number (n : Int)

def Input.value : Input → Except Refusal Nat
  | digest d => .ok d.toNat
  | number n =>
    if 0 ≤ n ∧ n ≤ Digest.maxNat then .ok n.toNat else .error (.outOfRange n)

def largest : Digest :=
  .ofNat Digest.maxNat

/-! ## Difficulty -/

/-- The target whose top `bits` bits are zero and whose other bits are one. -/
def ofBits (bits : Int) : Except Refusal Digest :=
  if 0 ≤ bits ∧ bits ≤ Digest.bitSize then
    .ok (.ofNat (Nat.pow 2 (Digest.bitSize - bits.toNat) - 1))
  else .error (.badDifficulty bits)

def meets (d : Digest) (target : Input) : Except Refusal Bool := do
  return d.toNat ≤ (← target.value)

/-- Whether a digest has at least so many leading zero bits, as a comparison with a target. -/
def meetsBits (d : Digest) (bits : Int) : Except Refusal Bool := do
  meets d (.digest (← ofBits bits))

/-! ## Compact form -/

/-- The compact code of the genesis difficulty. -/
def initialCompact : Nat := 0x1d00ffff

/-- The number of bytes of `n`; zero has none. -/
def byteSize (n : Nat) : Nat :=
  (Bytes.bitLength n + 7) / 8

/-- `n * 256 ^ (3 - size)`, rounded down. -/
def mantissaOf (n size : Nat) : Nat :=
  if size ≤ 3 then n <<< (8 * (3 - size)) else n >>> (8 * (size - 3))

/-- The compact code of a value: its three leading bytes, or two when the first has its top bit set,
and its size. -/
def compactOf (n : Nat) : Nat :=
  if n = 0 then 0
  else
    let size := byteSize n
    let mantissa := mantissaOf n size
    if mantissa &&& 0x00800000 ≠ 0 then ((size + 1) <<< 24) ||| (mantissa >>> 8)
    else (size <<< 24) ||| mantissa

def toCompact (target : Input) : Except Refusal Nat := do
  return compactOf (← target.value)

/-- The value that a size and a mantissa stand for: `mantissa * 256 ^ (size - 3)`, rounded down. -/
def compactValue (size mantissa : Nat) : Nat :=
  if size ≤ 3 then mantissa >>> (8 * (3 - size)) else mantissa <<< (8 * (size - 3))

def ofCompact (code : Int) : Except Refusal Digest :=
  if 0 ≤ code ∧ code ≤ 0xffffffff then
    let c := code.toNat
    let mantissa := c &&& 0x007fffff
    if mantissa ≠ 0 ∧ c &&& 0x00800000 ≠ 0 then .error (.compactNegative c)
    else
      let n := compactValue (c >>> 24) mantissa
      if n ≤ Digest.maxNat then .ok (.ofNat n) else .error (.compactOverflow c)
  else .error (.compactOutOfRange code)

/-! ## Adjustment -/

/-- The largest factor of one adjustment, either way. -/
def adjustmentLimit : Nat := 4

/-- The value `old` scaled by `actual / expected`, within a factor of four either way. -/
def adjusted (old : Nat) (actual : Int) (expected : Nat) : Nat :=
  let scaled := old * actual.toNat / expected
  min (min (max scaled (old / adjustmentLimit)) (old * adjustmentLimit)) Digest.maxNat

/-- The next target after an interval that took `actual` instead of `expected`. -/
def retarget (old : Input) (actual expected : Int) : Except Refusal Digest :=
  if expected ≤ 0 then .error (.badExpectedTime expected)
  else do
    return .ofNat (adjusted (← old.value) actual expected.toNat)

/-- A target and its compact code after each of several intervals. With `viaCompact` each target is
rounded through its compact code before the next interval. -/
def retargetRun (viaCompact : Bool) (old : Input) :
    List (Int × Int) → Except Refusal (List (Digest × Nat))
  | [] => .ok []
  | (actual, expected) :: rest => do
    let new ← retarget old actual expected
    let code ← toCompact (.digest new)
    let next ← if viaCompact then ofCompact code else pure new
    return (new, code) :: (← retargetRun viaCompact (.digest next) rest)

end Attest.Target
