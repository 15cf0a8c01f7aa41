import Attest.Base58
import Attest.Given

/-!
# Base58 of anything

Where a text is meant any data may be given. Data with items is read item by item as a text is by
characters, but it is no text in the end.
-/

namespace Attest.Base58

/-- Looks at the items of the list `whole`, each of which has to be a digit. -/
def checkItems (whole : Value) : List Value → Except Failure Unit
  | [] => .ok ()
  | v :: rest =>
    let refused : Except Failure Unit := .error (.naming v (.ofKind .address
      s!"Invalid Base58 character: {v.quoted}" [("address", whole)]))
    match v with
    | .text s =>
      match s.toList with
      | [c] => if (value? c).isSome then checkItems whole rest else refused
      | _ => refused
    | .list _ | .object _ => .error (.badType s!"unhashable type: {Quoted.encode v.kind}")
    | _ => refused

def decodeValue : Value → Except Failure Bytes
  | .text s => Except.widen (decode s)
  | .list items => do
    checkItems (.list items) items
    throw (.lacksAttribute (Value.list items).kind "lstrip")
  | v => .error (.badType s!"{Quoted.encode v.kind} object is not iterable")

def checkDecodeValue : Value → Except Failure (Bytes × Bytes)
  | .text s => Except.widen (checkDecode s)
  | v => do
    let _ ← decodeValue v
    return ([], [])

end Attest.Base58
