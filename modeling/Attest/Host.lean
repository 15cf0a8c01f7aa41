import Attest.Failure
import Attest.Path
import Attest.Text.Lines

/-!
# What a program asks of its host

The commands run on any host that keeps files, tells the time and has random bytes. Access to a file
ends with a file problem or not; a path that cannot be one is refused before the host is asked.
-/

namespace Attest

class Host (m : Type → Type) where
  /-- Whether something stands at a path. -/
  isThere : (path : String) → m (Except FileProblem Bool)
  /-- The content of a file. -/
  read : (path : String) → m (Except FileProblem Bytes)
  /-- Replaces the content of a file, which need not have been there. -/
  write : (path : String) → Bytes → m (Except FileProblem Unit)
  /-- Adds to the content of a file, which need not have been there. -/
  append : (path : String) → Bytes → m (Except FileProblem Unit)
  /-- The working folder, from the root, as long as it is there. -/
  folder : m (Option String)
  /-- The user's own folder, if it can be told. -/
  home : m (Option String)
  /-- The time since 1970 in ten-thousandths of a second. -/
  clock : m Nat
  /-- So many random bytes. -/
  random : (count : Nat) → m Bytes

namespace Host

variable {m : Type → Type} [Monad m] [Host m]

def workingFolder : ExceptT Failure m String := do
  match ← (Host.folder : m (Option String)) with
  | some folder => return folder
  | none => throw .noFolder

def homeFolder : ExceptT Failure m String := do
  match ← (Host.home : m (Option String)) with
  | some home => return home
  | none => throw .noHome

def located {α : Type} (path : String) (x : Except FileProblem α) : Except Failure α :=
  x.mapError fun problem => .ofFile problem path

/-- Whether a character of a path has bytes to stand for it. Of the halves of characters some stand
for a single byte, the others for none. -/
def hasBytes (c : Char) : Bool :=
  match Text.half? c with
  | some n => 0xdc80 ≤ n && n ≤ 0xdcff
  | none => true

/-- Why a text cannot be a path: halves of characters that stand for no bytes, with those that
follow them, or else a null byte. -/
def noPath? (path : String) : Option Failure :=
  let cs := path.toList
  let start := (cs.takeWhile hasBytes).length
  let halves := Text.leadingHalves (cs.drop start)
  if halves ≠ [] then some (.withoutBytes start halves)
  else if cs.contains '\x00' then some (.badValue "embedded null byte")
  else none

def atPath {α : Type} (path : String) (x : m (Except FileProblem α)) : ExceptT Failure m α :=
  match noPath? path with
  | none => ExceptT.mk (located path <$> x)
  | some e => throw e

/-- Whether something stands at a path; nothing stands at what cannot be a path. -/
def doesExist (path : String) : ExceptT Failure m Bool := do
  if (noPath? path).isNone then atPath path (Host.isThere path) else return false

/-- The bytes of a file. -/
def readBytes (path : String) : ExceptT Failure m Bytes :=
  atPath path (Host.read path)

/-- The text of a file, with line feeds for all line ends. -/
def readText (path : String) : ExceptT Failure m String := do
  match Utf8.decode (← readBytes path) with
  | .ok cs => return String.ofList (Text.normaliseLineEnds cs)
  | .error f => throw (.badText f)

def writeText (path content : String) : ExceptT Failure m Unit :=
  atPath path (Host.write path (Bytes.ofText content))

def appendText (path content : String) : ExceptT Failure m Unit :=
  atPath path (Host.append path (Bytes.ofText content))

end Host

end Attest
