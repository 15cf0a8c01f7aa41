import Attest.Ed25519.Curve
import Attest.Sha512

/-!
# Signatures on the curve

A private key is a seed of 32 bytes; its hash gives the secret scalar and the secret half of each
nonce. A signature is a point and a scalar below the order. Checking compares the bytes of the
point, so a signature has one accepted spelling of its point.
-/

namespace Attest.Ed25519

/-- The scalar that 32 bytes of a seed's hash give: the lowest three bits and the top bit cleared,
the bit below the top set. -/
def clamp (bs : Bytes) : Nat :=
  let n := Bytes.toNatLittle bs % Nat.pow 2 254
  n / 8 * 8 + Nat.pow 2 254

def secretScalar (seed : Bytes) : Nat :=
  clamp ((Sha512.hash seed).take 32)

def publicKey (seed : Bytes) : Bytes :=
  (Point.times (secretScalar seed) Point.base).encode

def challenge (bs : Bytes) : Nat :=
  Bytes.toNatLittle (Sha512.hash bs) % order

def sign (seed message : Bytes) : Bytes :=
  let key := publicKey seed
  let nonce := challenge ((Sha512.hash seed).drop 32 ++ message)
  let point := (Point.times nonce Point.base).encode
  let scalar := (nonce + challenge (point ++ key ++ message) * secretScalar seed) % order
  point ++ Bytes.littleEndian 32 scalar

/-- Whether a signature is one of a message under a public key. A key that is no point verifies
nothing. -/
def verify (key message signature : Bytes) : Bool :=
  let point := signature.take 32
  let scalar := Bytes.toNatLittle (signature.drop 32)
  if order ≤ scalar then false
  else match Point.decode? key with
    | none => false
    | some a =>
      let h := challenge (point ++ key ++ message)
      ((Point.times h a.negate).plus (Point.times scalar Point.base)).encode = point

@[simp] theorem length_publicKey (seed : Bytes) : (publicKey seed).length = 32 := by
  simp [publicKey]

@[simp] theorem length_sign (seed message : Bytes) : (sign seed message).length = 64 := by
  simp [sign]

end Attest.Ed25519
