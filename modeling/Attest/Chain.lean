import Attest.Digest
import Attest.Given

/-!
# Hash chains

Each link is the joint digest of the link before it and the hash of an item, so a link stands for
all items up to it. The first link follows the genesis digest.
-/

namespace Attest.Chain

def links (previous : Digest) : List Bytes → List Digest
  | [] => []
  | item :: rest =>
    let link := previous.join (sha256 item)
    link :: links link rest

/-- The genesis digest, the zero digest when none is given. -/
def genesisOr (genesis : Option Digest) : Digest :=
  genesis.getD .zero

def hashes (items : List Bytes) (genesis : Option Digest) : List Digest :=
  links (genesisOr genesis) items

def verify (items : List Bytes) (ls : List Digest) (genesis : Option Digest) : Bool :=
  items.length = ls.length && hashes items genesis = ls

/-- The links over items after anything given as genesis; other data is looked at only for the first
link. -/
def hashesGiven (items : List Bytes) : Option (Given Digest) → Except Failure (List Digest)
  | none => .ok (hashes items none)
  | some (.proper g) => .ok (hashes items (some g))
  | some (.other v) =>
    if items.isEmpty then .ok [] else .error (.lacksAttribute v.kind "digest")

def verifyGiven (items : List Bytes) (ls : List (Given Digest))
    (genesis : Option (Given Digest)) : Except Failure Bool :=
  if items.length ≠ ls.length then .ok false
  else do
    let proper ← hashesGiven items genesis
    return ls.mapM Given.proper? = some proper

end Attest.Chain
