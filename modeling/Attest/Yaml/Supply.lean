import Attest.Binary64.Arithmetic
import Attest.Failure
import Attest.Text.Lines
import Attest.Yaml.Character

/-!
# The supply of characters

A document is read piece by piece as its tokens are made. Bytes come in blocks and are decoded block
by block, line ends become line feeds, and the characters are handed on in pieces of equal length.
What is wrong with a piece is only found when it is asked for, so a fault before it comes first;
places in a block are counted from what is left of the block before.
-/

namespace Attest.Yaml

/-- What there is to be read: characters, and what stops the reading where they end, if anything
does. -/
structure Supply where
  text : List Char
  trouble : Option Failure

namespace Supply

def blockSize : Nat := 8192

def pieceSize : Nat := 4096

/-- The state between two pieces: the bytes not asked for yet, those of a character cut short,
whether a carriage return waits for what follows it, the characters that are ready, and how many
bytes a character had in the last block. -/
structure Source where
  bytes : Bytes
  cut : Bytes
  hasReturn : Bool
  ready : List Char
  density : Binary64

def Source.ofBytes (bs : Bytes) : Source where
  bytes := bs
  cut := []
  hasReturn := false
  ready := []
  density := .ofMagnitudeBits false 0

/-- The characters of a block, and the bytes of a character cut short at its end; the last block
must not end so. -/
def decode (isLast : Bool) (bs : Bytes) : Except Utf8.Fault (List Char × Bytes) :=
  match Utf8.decode bs with
  | .ok cs => .ok (cs, [])
  | .error f =>
    if !isLast && f.reason = .cutShort then do
      return (← Utf8.decode (bs.take f.start), bs.drop f.start)
    else .error f

def real (n : Nat) : Binary64 :=
  .ofScaled false n 0

/-- The number of bytes to ask for when so many characters are wanted. -/
def Source.blockFor (s : Source) (wanted : Nat) : Nat :=
  let density := if s.density.compare .one = some .gt then s.density else .one
  max blockSize ((density.mul (real wanted)).floor.toInt?.getD 0).toNat

/-- The state with the next block decoded, `wanted` characters being wanted. -/
def Source.refill (s : Source) (wanted : Nat) : Except Utf8.Fault Source := do
  let block := s.bytes.take (s.blockFor wanted)
  let isLast := block.isEmpty
  let (cs, cut) ← decode isLast (s.cut ++ block)
  let waits := s.hasReturn && cs.isEmpty && !isLast
  let cs := if s.hasReturn && !waits then '\r' :: cs else cs
  let isHeld := !isLast && cs.getLast? = some '\r'
  let ready := Text.normaliseLineEnds (if isHeld then cs.dropLast else cs)
  let density := if ready.isEmpty then real 0 else (real block.length).div (real ready.length)
  return { bytes := s.bytes.drop block.length, cut, hasReturn := waits || isHeld, ready, density }

/-- So many characters, or fewer at the end of the text. The fuel is more than the number of bytes.
-/
def Source.take (s : Source) : (fuel wanted : Nat) → Except Utf8.Fault (List Char × Source)
  | 0, _ => .ok ([], s)
  | fuel + 1, wanted => do
    let cs := s.ready.take wanted
    let s := { s with ready := s.ready.drop wanted }
    if cs.length = wanted then return (cs, s)
    let wanted := wanted - cs.length
    let isOver := s.bytes.isEmpty
    let s ← s.refill wanted
    if isOver && s.ready.isEmpty then return (cs, s)
    let (more, s) ← s.take fuel wanted
    return (cs ++ more, s)

/-- The next piece. -/
def Source.piece (s : Source) : Except Utf8.Fault (List Char × Source) :=
  s.take (s.bytes.length + 3) pieceSize

def Source.start (s : Source) : Except Utf8.Fault (List Char × Source) := do
  let (first, s) ← s.piece
  let (second, s) ← s.piece
  return (first ++ second, s)

def ofPieces (next : Except Utf8.Fault (List Char × Source)) : (fuel : Nat) → Supply
  | 0 => ⟨[], none⟩
  | fuel + 1 =>
    match next with
    | .error f => ⟨[], some (.badText f)⟩
    | .ok (cs, s) =>
      if !cs.all isAllowed then ⟨[], some (.badYaml .character)⟩
      else if cs.isEmpty then ⟨[], none⟩
      else
        let rest := ofPieces s.piece fuel
        { rest with text := cs ++ rest.text }

def ofBytes (bs : Bytes) : Supply :=
  ofPieces (Source.ofBytes bs).start (bs.length + 2)

end Supply

end Attest.Yaml
