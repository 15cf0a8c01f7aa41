import Attest.Number
import Attest.Target

/-!
# Targets from anything

Callers may hand over anything as a target, a difficulty, a compact code or a time. Whole numbers
are what they should be. Floating-point numbers pass the same checks of their range, but most of
what follows cannot be done with them; other data cannot even be compared with a number.
-/

namespace Attest.Target

def orFail {α : Type} (x : Except Refusal α) : Except Failure α :=
  x.mapError Refusal.failure

/-- Whether a number lies within bounds; that which is no number lies within all. -/
def liesWithin (low high : Int) (x : Number) : Bool :=
  !x.isLess (.int low) && !(Number.int high).isLess x

/-- A target as the library takes it, unless it is something else. -/
def input? : Given Digest → Option Input
  | .proper d => some (.digest d)
  | .other v => v.whole?.map .number

def valueOf (target : Given Digest) : Except Failure Number :=
  match target, input? target with
  | _, some t => (orFail t.value).map fun n => .int n
  | .proper d, none => .ok (.int d.toNat)
  | .other v, none => do
    let x ← v.comparable "<"
    if liesWithin 0 Digest.maxNat x then return x
    throw (.badValue s!"Target out of range for a 256-bit value: {v.plain}")

/-! ## Difficulty -/

def bitsOf (v : Value) : Except Failure Int :=
  match v.whole? with
  | some n => do
    let _ ← orFail (ofBits n)
    return n
  | none => do
    if liesWithin 0 Digest.bitSize (← v.comparable "<") then
      throw (.unsupported "<<" (Value.int 0).kind v.kind)
    throw (.badValue s!"Difficulty bits must be in 0..256, got {v.plain}")

def ofBitsValue (v : Value) : Except Failure Digest := do
  orFail (ofBits (← bitsOf v))

/-- Whether a thing meets a target. The thing is looked at first. -/
def meetsGiven (d target : Given Digest) : Except Failure Bool := do
  let d ← d.need "to_int"
  match input? target with
  | some t => orFail (meets d t)
  | none => return (Number.int d.toNat).isAtMost (← valueOf target)

/-- Whether a thing meets the target of a difficulty. The difficulty is looked at first. -/
def meetsBitsGiven (d : Given Digest) (bits : Value) : Except Failure Bool := do
  let bits ← bitsOf bits
  orFail (meetsBits (← d.need "to_int") bits)

/-! ## Compact form -/

/-- The compact code of a target that may be anything; of floating-point numbers only zero has one.
-/
def toCompactGiven (target : Given Digest) : Except Failure Nat :=
  match input? target with
  | some t => orFail (toCompact t)
  | none => do
    if (← valueOf target).compare (.int 0) = some .eq then return compactOf 0
    throw (.lacksAttribute "float" "bit_length")

def ofCompactValue (code : Value) : Except Failure Digest :=
  match code.whole? with
  | some n => orFail (ofCompact n)
  | none => do
    if liesWithin 0 0xffffffff (← code.comparable "<") then
      throw (.unsupported ">>" code.kind (Value.int 0).kind)
    throw (.badValue "Unknown format code 'x' for object of type 'float'")

/-! ## Adjustment -/

/-- The value `old` scaled by `actual / expected` with numbers of either kind, within a factor of
four either way. -/
def adjustedNumber (old actual expected : Number) : Except Failure Number := do
  let limit := Number.int adjustmentLimit
  let scaled ← (← old.mul (actual.max (.int 0))).floorDiv expected
  let scaled := scaled.max (← old.floorDiv limit)
  let scaled := scaled.min (← old.mul limit)
  return scaled.min (.int Digest.maxNat)

/-- The next target after an interval. The expected time is looked at first, then the target. -/
def retargetGiven (old : Given Digest) (actual expected : Value) : Except Failure Digest := do
  let e ← expected.comparable "<="
  if e.isAtMost (.int 0) then
    throw (.badValue (expected.tell s!"Expected time must be positive, got {expected.plain}"))
  match input? old, actual.whole?, expected.whole? with
  | some t, some a, some e => orFail (retarget t a e)
  | _, _, _ =>
    let value ← valueOf old
    let a ← match actual.number? with
      | some a => pure a
      | none => throw (.incomparable ">" (Value.int 0).kind actual.kind)
    match ← adjustedNumber value a e with
    | .int n => return .ofNat n.toNat
    | .float _ => throw (.lacksAttribute "float" "to_bytes")

/-- A target and its compact code after each of several intervals, each an actual and an expected
time. -/
def retargetSteps (viaCompact : Bool) (old : Given Digest) :
    List (Value × Value) → Except Failure (List (Digest × Nat))
  | [] => .ok []
  | (actual, expected) :: rest => do
    let new ← retargetGiven old actual expected
    let code ← orFail (toCompact (.digest new))
    let next ← if viaCompact then orFail (ofCompact code) else pure new
    return (new, code) :: (← retargetSteps viaCompact (.proper next) rest)

def interval? : Value × Value → Option (Int × Int)
  | (.int actual, .int expected) => some (actual, expected)
  | _ => none

def retargetRunGiven (viaCompact : Bool) (old : Given Digest) (intervals : List (Value × Value)) :
    Except Failure (List (Digest × Nat)) :=
  match input? old, intervals.mapM interval? with
  | some t, some intervals => orFail (retargetRun viaCompact t intervals)
  | _, _ => retargetSteps viaCompact old intervals

end Attest.Target
