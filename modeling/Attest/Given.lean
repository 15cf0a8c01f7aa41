import Attest.Failure

/-!
# Things of the right kind, or not

Callers may hand over any data where a digest or a text is meant. What is given is then either a
proper thing or another thing in its place, which most often is data, and data has none of the
attributes that an operation asks for.
-/

namespace Attest

/-- A thing of the right kind, or another thing in its place. -/
inductive Given (α : Type) (φ : Type := Value) where
  | proper (a : α)
  | other (v : φ)
  deriving Repr

namespace Given

variable {α φ : Type}

def proper? : Given α φ → Option α
  | proper a => some a
  | other _ => none

theorem mapM_proper? (as : List α) :
    (as.map (proper : α → Given α φ)).mapM proper? = some as := by
  induction as with
  | nil => rfl
  | cons a as ih =>
    rw [List.map_cons, List.mapM_cons, ih]
    rfl

/-- The thing, or the failure of asking other data for an attribute of it. -/
def need (name : String) : Given α → Except Failure α
  | proper a => .ok a
  | other v => .error (.lacksAttribute v.kind name)

end Given

/-- The text that data is, or the failure of asking other data for an attribute of texts. -/
def Value.needText (name : String) : Value → Except Failure String
  | text s => .ok s
  | v => .error (.lacksAttribute v.kind name)

def Value.path : Value → Except Failure String
  | text s => .ok s
  | v => .error (.notPath v.kind)

end Attest
