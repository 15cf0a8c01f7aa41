import Attest.Target

/-!
# Proof of work

A miner looks for a nonce whose eight little-endian bytes, put after a header, give a double hash
that meets its target. Nonces are tried in order from a start up to a limit; a nonce that does not
fit into eight bytes has no hash.
-/

namespace Attest

/-- A miner: its target, the leading zero bits that the target asks for, and the nonces' limit. -/
structure Miner where
  difficultyBits : Nat
  maxNonce : Nat
  target : Digest
  deriving DecidableEq, Repr

/-- A nonce that was found, with its hash and the number of nonces tried. -/
structure Solution where
  nonce : Nat
  hash : Digest
  attempts : Nat
  deriving DecidableEq, Repr

namespace Miner

def defaultBits : Nat := 16

def defaultMaxNonce : Nat := 2000000

/-- The refusal of a limit that is not positive. -/
def limitRefusal (limit : Value) : Failure :=
  .badValue (limit.tell s!"max_nonce must be positive, got {limit.plain}")

def checkLimit (maxNonce : Int) : Except Failure Nat :=
  if maxNonce ≤ 0 then .error (limitRefusal (.int maxNonce)) else .ok maxNonce.toNat

def ofBits (bits maxNonce : Int) : Except Failure Miner := do
  let limit ← checkLimit maxNonce
  let target ← (Target.ofBits bits).mapError Target.Refusal.failure
  return { difficultyBits := bits.toNat, maxNonce := limit, target }

def ofTarget (target : Digest) (maxNonce : Int) : Except Failure Miner := do
  let limit ← checkLimit maxNonce
  return { difficultyBits := target.leadingZeroBits, maxNonce := limit, target }

def ofCompact (code maxNonce : Int) : Except Failure Miner := do
  let target ← (Target.ofCompact code).mapError Target.Refusal.failure
  ofTarget target maxNonce

def nonceSize : Nat := 8

def nonceCount : Nat := Nat.pow 2 (8 * nonceSize)

def hashAt (header : Bytes) (nonce : Nat) : Digest :=
  doubleSha256 (header ++ Bytes.littleEndian nonceSize nonce)

def hash (header : Bytes) (nonce : Int) : Except Failure Digest :=
  if nonce < 0 then .error (.overflow "can't convert negative int to unsigned")
  else if nonceCount ≤ nonce then .error (.overflow "int too big to convert")
  else .ok (hashAt header nonce.toNat)

def accepts (m : Miner) (d : Digest) : Bool :=
  d.toNat ≤ m.target.toNat

def verify (m : Miner) (header : Bytes) (nonce : Int) : Bool :=
  match hash header nonce with
  | .ok d => m.accepts d
  | .error _ => false

/-- The first of `count` nonces from `nonce` on whose hash meets the target. -/
def search (m : Miner) (header : Bytes) : (count : Nat) → (nonce : Int) →
    Except Failure (Option (Nat × Digest))
  | 0, _ => .ok none
  | count + 1, nonce =>
    match hash header nonce with
    | .error e => .error e
    | .ok d =>
      if m.accepts d then .ok (some (nonce.toNat, d)) else search m header count (nonce + 1)

/-- The first solution from a start on. -/
def mine (m : Miner) (header : Bytes) (start : Int) : Except Failure (Option Solution) := do
  let found ← m.search header (m.maxNonce - start).toNat start
  return found.map fun (nonce, hash) =>
    { nonce, hash, attempts := (nonce - start + 1).toNat }

/-- All solutions from a start on, each search starting after the solution before it. The fuel
bounds the number of solutions; the limit is more than enough. -/
def mineAllFrom (m : Miner) (header : Bytes) : (fuel : Nat) → (start : Nat) →
    Except Failure (List Solution)
  | 0, _ => .ok []
  | fuel + 1, start => do
    match ← m.mine header start with
    | none => return []
    | some s => return s :: (← mineAllFrom m header fuel (s.nonce + 1))

def mineAll (m : Miner) (header : Bytes) : Except Failure (List Solution) :=
  m.mineAllFrom header (m.maxNonce + 1) 0

end Miner

end Attest
