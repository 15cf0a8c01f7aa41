import Attest.Failure
import Attest.Text.Integer

/-!
# Environment variables

Settings may be overridden by five variables. A variable that is set to the empty text counts as not
given, except where a reader asks for what is set. No other variable is looked at here: that of the
user's own folder is the host's to tell.
-/

namespace Attest

abbrev Environment := List (String × String)

namespace Environment

def difficultyBits : String := "KAIBLOCK_POW_DIFFICULTY_BITS"

def maxNonce : String := "KAIBLOCK_POW_MAX_NONCE"

def addressType : String := "KAIBLOCK_ADDRESS_TYPE"

def logLevel : String := "KAIBLOCK_LOG_LEVEL"

def logFile : String := "KAIBLOCK_LOG_FILE"

def names : List String := [difficultyBits, maxNonce, addressType, logLevel, logFile]

def get? (env : Environment) (name : String) : Option String :=
  List.lookup name env

/-- The value of a variable that is set to a text that is not empty. -/
def given? (env : Environment) (name : String) : Option String :=
  (env.get? name).filter (!·.isEmpty)

def integer? (env : Environment) (name : String) : Except Failure (Option Int) :=
  match env.given? name with
  | none => .ok none
  | some s =>
    match Numeral.parse s with
    | .ok n => .ok (some n)
    | .error r => .error (.badValue (r.message 10 s))

end Environment

end Attest
