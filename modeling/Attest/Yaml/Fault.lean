/-!
# Faults of YAML documents

A document is refused at one of five stages, each of which has its name; nothing more is said.
-/

namespace Attest.Yaml

/-- Why a document is refused: for its characters, its tokens, how they follow each other, what its
names refer to, or the values it stands for. -/
inductive Fault where
  | character
  | token
  | grammar
  | reference
  | construction
  deriving DecidableEq, Repr

def Fault.name : Fault → String
  | character => "ReaderError"
  | token => "ScannerError"
  | grammar => "ParserError"
  | reference => "ComposerError"
  | construction => "ConstructorError"

end Attest.Yaml
