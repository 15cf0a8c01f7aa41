import Attest.Miner
import Attest.Target.Unchecked

/-!
# Miners from settings of any kind

The settings of a miner come from files and callers as data. The limit is looked at first, then the
target or the difficulty. What a miner shows of its settings is what was given; a limit that is no
whole number passes if it is positive, but no nonces can be counted up to it.
-/

namespace Attest.Miner

/-- A miner with its settings as they were given. -/
structure Unchecked where
  miner : Miner
  difficultyBits : Value
  maxNonce : Value
  deriving Repr

/-- A limit that may be anything. One that no nonces are counted up to counts as the usual one. -/
def limitOf (v : Value) : Except Failure Nat := do
  if (← v.comparable "<=").isAtMost (.int 0) then throw (limitRefusal v)
  match v.whole? with
  | some n => checkLimit n
  | none => return defaultMaxNonce

/-- Refuses settings of unknown names; those in `taken` are known but have their value already. -/
def checkNames (title : String) (taken known : List String) (settings : Fields) :
    Except Failure Unit :=
  match settings.find? fun (name, _) => !known.contains name with
  | none => .ok ()
  | some (name, _) => .error (.unfitArgument title taken name)

namespace Unchecked

def make (target : Option (Given Digest)) (bits maxNonce : Value) : Except Failure Unchecked := do
  let limit ← limitOf maxNonce
  match target with
  | none =>
    let miner ← ofBits (← Target.bitsOf bits) limit
    return { miner, difficultyBits := bits, maxNonce }
  | some given =>
    let d ← given.need "leading_zero_bits"
    return { miner := ← ofTarget d limit, difficultyBits := .int d.leadingZeroBits, maxNonce }

def limitIn (settings : Fields) : Value :=
  (settings.get? "max_nonce").getD (.int defaultMaxNonce)

/-- The miner for named settings. Among them a target is named, but it is given beside them. -/
def ofSettings (target : Option (Given Digest)) (settings : Fields) : Except Failure Unchecked := do
  checkNames "ProofOfWork.__init__" ["self"] ["difficulty_bits", "max_nonce", "target"] settings
  make target ((settings.get? "difficulty_bits").getD (.int defaultBits)) (limitIn settings)

def ofCode (code : Value) (settings : Fields) : Except Failure Unchecked := do
  checkNames "ProofOfWork.from_compact" ["cls", "nbits"] ["max_nonce"] settings
  match code, limitIn settings with
  | .int n, .int limit => do
    let miner ← ofCompact n limit
    return { miner, difficultyBits := .int miner.difficultyBits, maxNonce := .int limit }
  | code, limit => make (some (.proper (← Target.ofCompactValue code))) .null limit

/-- The first solution from a start on, which is looked at before the limit. -/
def mine (m : Unchecked) (header : Bytes) (start : Value) : Except Failure (Option Solution) :=
  match start.whole?, m.maxNonce.whole? with
  | none, _ => .error (.notCount start.kind)
  | _, none => .error (.notCount m.maxNonce.kind)
  | some n, some _ => m.miner.mine header n

def mineAll (m : Unchecked) (header : Bytes) : Except Failure (List Solution) :=
  match m.maxNonce.whole? with
  | none => .error (.notCount m.maxNonce.kind)
  | some _ => m.miner.mineAll header

def verify (m : Unchecked) (header : Bytes) (nonce : Value) : Except Failure Bool :=
  match nonce.whole? with
  | some n => .ok (m.miner.verify header n)
  | none => do
    let x ← nonce.comparable "<"
    if x.isLess (.int 0) || (Number.int nonceCount).isAtMost x then return false
    throw (.lacksAttribute nonce.kind "to_bytes")

end Unchecked

def hashGiven (header : Bytes) (nonce : Value) : Except Failure Digest :=
  match nonce.whole? with
  | some n => hash header n
  | none => .error (.lacksAttribute nonce.kind "to_bytes")

end Attest.Miner
