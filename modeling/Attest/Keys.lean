import Attest.Ed25519.Signing
import Attest.Given

/-!
# Keys and signatures

Private and public keys have 32 bytes and signatures 64; the sizes are checked when they are read,
and nothing else is. What derives a public key, signs and verifies is a signature scheme, a
parameter here; the scheme in use is Ed25519.
-/

namespace Attest

/-- What derives a public key, signs and verifies. -/
structure SignatureScheme where
  publicKey : (seed : Bytes) → Bytes
  sign : (seed message : Bytes) → Bytes
  verify : (key message signature : Bytes) → Bool
  length_publicKey : ∀ seed, (publicKey seed).length = 32
  length_sign : ∀ seed message, (sign seed message).length = 64

def SignatureScheme.ed25519 : SignatureScheme where
  publicKey := Ed25519.publicKey
  sign := Ed25519.sign
  verify := Ed25519.verify
  length_publicKey := Ed25519.length_publicKey
  length_sign := Ed25519.length_sign

@[ext]
structure PrivateKey where
  bytes : Bytes
  length_bytes : bytes.length = 32

instance : DecidableEq PrivateKey := fun _ _ => decidable_of_iff _ PrivateKey.ext_iff.symm

@[ext]
structure PublicKey where
  bytes : Bytes
  length_bytes : bytes.length = 32

instance : DecidableEq PublicKey := fun _ _ => decidable_of_iff _ PublicKey.ext_iff.symm

/-- A signature and the name of its scheme. -/
structure Signature where
  bytes : Bytes
  scheme : String
  length_bytes : bytes.length = 64
  deriving DecidableEq

/-- A signing key with its verifying key. -/
structure Keypair where
  privateKey : PrivateKey
  publicKey : PublicKey
  deriving DecidableEq

def schemeName : String := "ed25519"

namespace PrivateKey

def ofBytes (bs : Bytes) : Except Fault PrivateKey :=
  if h : bs.length = 32 then .ok ⟨bs, h⟩
  else .error (.invalidKey s!"Private key must be 32 bytes, got {bs.length}")

def parse (s : String) : Except Fault PrivateKey :=
  match Hex.parse s with
  | .error r => .error (.invalidKey s!"Invalid hex for private key: {r.message}")
  | .ok bs => ofBytes bs

def ofText (v : Value) : Except Failure PrivateKey := do
  Except.widen (parse (← v.needText "startswith"))

def toHex (k : PrivateKey) : String :=
  Hex.encode k.bytes

/-- The key as it is shown to programmers, which tells nothing. -/
def shown (_ : PrivateKey) : String :=
  "PrivateKey([HIDDEN])"

def publicKey (k : PrivateKey) (scheme : SignatureScheme) : PublicKey :=
  ⟨scheme.publicKey k.bytes, scheme.length_publicKey k.bytes⟩

def sign (k : PrivateKey) (scheme : SignatureScheme) (message : Bytes) : Signature :=
  ⟨scheme.sign k.bytes message, schemeName, scheme.length_sign k.bytes message⟩

end PrivateKey

namespace PublicKey

def ofBytes (bs : Bytes) : Except Fault PublicKey :=
  if h : bs.length = 32 then .ok ⟨bs, h⟩
  else .error (.invalidKey s!"Public key must be 32 bytes, got {bs.length}")

def parse (s : String) : Except Fault PublicKey :=
  match Hex.parse s with
  | .error r => .error (.invalidKey s!"Invalid hex for public key: {r.message}")
  | .ok bs => ofBytes bs

def ofText (v : Value) : Except Failure PublicKey := do
  Except.widen (parse (← v.needText "startswith"))

def toHex (k : PublicKey) : String :=
  Hex.encode k.bytes

/-- The key as it is shown to programmers. -/
def shown (k : PublicKey) : String :=
  s!"PublicKey({k.toHex})"

def verify (k : PublicKey) (scheme : SignatureScheme) (message : Bytes) (s : Signature) : Bool :=
  scheme.verify k.bytes message s.bytes

end PublicKey

namespace Signature

def ofBytes (bs : Bytes) (scheme : String) : Except Fault Signature :=
  if h : bs.length = 64 then .ok ⟨bs, scheme, h⟩
  else .error (.invalidSignature s!"Signature must be 64 bytes, got {bs.length}")

def parse (s : String) : Except Fault Signature :=
  match Hex.parse s with
  | .error r => .error (.invalidSignature s!"Invalid hex for signature: {r.message}")
  | .ok bs => ofBytes bs schemeName

def ofText (v : Value) : Except Failure Signature := do
  Except.widen (parse (← v.needText "startswith"))

def toHex (s : Signature) : String :=
  Hex.encode s.bytes

end Signature

namespace Keypair

def ofPrivate (scheme : SignatureScheme) (k : PrivateKey) : Keypair :=
  { privateKey := k, publicKey := k.publicKey scheme }

def ofBytes (scheme : SignatureScheme) (bs : Bytes) : Except Fault Keypair :=
  (PrivateKey.ofBytes bs).map (ofPrivate scheme)

def parse (scheme : SignatureScheme) (s : String) : Except Fault Keypair :=
  (PrivateKey.parse s).map (ofPrivate scheme)

def ofText (scheme : SignatureScheme) (v : Value) : Except Failure Keypair := do
  Except.widen (parse scheme (← v.needText "startswith"))

/-- The pair as it is shown to programmers. -/
def shown (k : Keypair) : String :=
  s!"Keypair(public_key={k.publicKey.toHex})"

def toFields (k : Keypair) : Fields :=
  [("scheme", .text schemeName), ("private_key_hex", .text k.privateKey.toHex),
    ("public_key_hex", .text k.publicKey.toHex)]

/-- The field of stored data with the signing key. Only objects have fields. -/
def privateField (v : Value) : Except Failure Value :=
  match v with
  | .object fields =>
    match fields.lookup "private_key_hex" with
    | some w => .ok w
    | none => .error (.fault (.unreadable "Missing keypair field: 'private_key_hex'" []))
  | .text _ => .error (.badType "string indices must be integers, not 'str'")
  | .list _ => .error (.badType "list indices must be integers or slices, not str")
  | v => .error (.badType s!"{Quoted.encode v.kind} object is not subscriptable")

/-- Compares the stored verifying key with the derived one; none is fine. -/
def checkPublic (derived : String) : Value → Except Failure Unit
  | .text s =>
    if s.isEmpty || s.toList.map Char.toLower = derived.toList then .ok ()
    else .error (.fault (.unreadable "Stored public key does not match private key" []))
  | v => if v.isGiven then .error (.lacksAttribute v.kind "lower") else .ok ()

def ofValue (scheme : SignatureScheme) (v : Value) : Except Failure Keypair := do
  let pair ← ofText scheme (← privateField v)
  let stored := match v with
    | .object fields => (Fields.get? fields "public_key_hex").getD .null
    | _ => .null
  checkPublic pair.publicKey.toHex stored
  return pair

end Keypair

end Attest
