import Attest.Digest
import Attest.Given
import Attest.Number
import Attest.Text.Integer

/-!
# Digests, or anything in their place

Callers may hand over anything as a digest or as the number that one spells. Digests are compared
with digests only; other data is compared by its own order, and data of two kinds has none.
-/

namespace Attest

/-- The digest of two digests in order, the left one being looked at first. -/
def Given.join (left right : Given Digest) : Except Failure Digest := do
  return (← left.need "digest").join (← right.need "digest")

/-! ## The order of data -/

namespace Value

mutual

/-- Whether two pieces of data are equal: numbers by what they are worth, objects in any order of
their fields. -/
def alike : Value → Value → Bool
  | null, null => true
  | text a, text b => a = b
  | list as, list bs => alikeItems as bs
  | object as, object bs => as.length = bs.length && alikeFields as bs
  | v, w =>
    match v.number?, w.number? with
    | some a, some b => a = b || a.compare b = some .eq
    | _, _ => false

def alikeItems : List Value → List Value → Bool
  | [], [] => true
  | a :: as, b :: bs => alike a b && alikeItems as bs
  | _, _ => false

def alikeFields : List (String × Value) → List (String × Value) → Bool
  | [], _ => true
  | (name, a) :: as, bs =>
    (match List.lookup name bs with
      | some b => alike a b
      | none => false) && alikeFields as bs

end

mutual

/-- Whether data comes before other data: numbers, texts and lists do, each among themselves. -/
def isBefore : Value → Value → Except Failure Bool
  | text a, text b => .ok (a < b)
  | list as, list bs => isBeforeItems as bs
  | v, w =>
    match v.number?, w.number? with
    | some a, some b => .ok (a.isLess b)
    | _, _ => .error (.incomparable "<" v.kind w.kind)

/-- Whether a list comes before another: by the first items that are not equal, or else by length.
-/
def isBeforeItems : List Value → List Value → Except Failure Bool
  | [], bs => .ok (!bs.isEmpty)
  | _ :: _, [] => .ok false
  | a :: as, b :: bs => if a.alike b then isBeforeItems as bs else isBefore a b

end

end Value

/-! ## Comparisons -/

/-- How two things stand to each other. Equal things have the same residue, but not only they. -/
structure Comparison where
  isLess : Bool
  isAtMost : Bool
  isGreater : Bool
  isAtLeast : Bool
  isEqual : Bool
  hasSameResidue : Bool
  deriving DecidableEq, Repr

def Digest.compared (a b : Digest) : Comparison where
  isLess := a < b
  isAtMost := a ≤ b
  isGreater := b < a
  isAtLeast := b ≤ a
  isEqual := a = b
  hasSameResidue := a = b

def Number.compared (a b : Number) : Comparison where
  isLess := a.isLess b
  isAtMost := a.isAtMost b
  isGreater := b.isLess a
  isAtLeast := b.isAtMost a
  isEqual := a.compare b = some .eq
  hasSameResidue := a.residue? = b.residue?

namespace Given

def digestKind : Given Digest → String
  | proper _ => "Hash256"
  | other v => v.kind

def isBefore (a b : Given Digest) : Except Failure Bool :=
  match a, b with
  | proper a, proper b => .ok (a < b)
  | other v, other w => v.isBefore w
  | a, b => .error (.incomparable "<" a.digestKind b.digestKind)

/-- How two things stand to each other. Of data only numbers have residues. -/
def compared (a b : Given Digest) : Except Failure Comparison := do
  let _ ← a.isBefore b
  match a, b with
  | proper a, proper b => return a.compared b
  | other v, other w =>
    match v.number?, w.number? with
    | some x, some y => return x.compared y
    | _, _ => throw (.badType s!"unhashable type: {Quoted.encode v.kind}")
  | a, b => throw (.incomparable "<" a.digestKind b.digestKind)

/-! ## Sorting -/

/-- The place for a thing among things in order, found by halving the part from `low` to `high`. The
fuel is at least the size of that part. -/
def placeIn (ordered : List (Given Digest)) (x : Given Digest) :
    (fuel low high : Nat) → Except Failure Nat
  | 0, low, _ => .ok low
  | fuel + 1, low, high =>
    if low < high then do
      let middle := low + (high - low) / 2
      match ordered[middle]? with
      | none => return low
      | some y =>
        if ← x.isBefore y then placeIn ordered x fuel low middle
        else placeIn ordered x fuel (middle + 1) high
    else .ok low

def insertAll (ordered : List (Given Digest)) :
    List (Given Digest) → Except Failure (List (Given Digest))
  | [] => .ok ordered
  | x :: rest => do
    let place ← placeIn ordered x ordered.length 0 ordered.length
    insertAll (ordered.insertIdx place x) rest

/-- The run at the front of things after `previous`, `run` being what it has so far, last first: it
goes on while each next thing is before the one ahead of it, or is not, as `isFalling` says. -/
def takeRun (isFalling : Bool) (previous : Given Digest) (run : List (Given Digest)) :
    List (Given Digest) → Except Failure (List (Given Digest) × List (Given Digest))
  | [] => .ok (run, [])
  | x :: rest => do
    if (← x.isBefore previous) = isFalling then takeRun isFalling x (x :: run) rest
    else return (run, x :: rest)

/-- Things in order, if each two that are compared have one. A falling run at the front is turned
around, and what follows the first run is put in its place. -/
def inOrder : List (Given Digest) → Except Failure (List (Given Digest))
  | x :: y :: rest => do
    let isFalling ← y.isBefore x
    let (run, rest) ← takeRun isFalling y [y, x] rest
    insertAll (if isFalling then run else run.reverse) rest
  | few => .ok few

/-- Digests in order. Other data may have an order too, but is not written like digests. -/
def sorted (things : List (Given Digest)) : Except Failure (List Digest) :=
  match things.mapM proper? with
  | some ds => .ok (ds.mergeSort fun a b => decide (a ≤ b))
  | none => do (← inOrder things).mapM fun x => x.need "to_hex"

end Given

def Digest.extremes : List Digest → Except Failure (Digest × Digest)
  | [] => .error (.badValue "min() arg is an empty sequence")
  | d :: ds => .ok (d, ds.getLastD d)

/-! ## Digests from numbers -/

/-- The digest that data spells as a whole number, which may be written as a text. -/
def Digest.ofNumber (v : Value) : Except Failure Digest :=
  match v, v.whole? with
  | .text s, _ =>
    match Numeral.parse s with
    | .ok n => ofInt n
    | .error r => .error (.badValue (r.message 10 s))
  | _, some n => ofInt n
  | v, none => do
    let x ← v.comparable "<"
    if x.isLess (.int 0) || (Number.int maxNat).isLess x then
      throw (outOfRange v)
    throw (.lacksAttribute v.kind "to_bytes")

end Attest
