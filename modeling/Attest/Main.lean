import Attest.Program
import Std.Time.DateTime.Timestamp

/-!
# The program on the machine it runs on

The host is the machine: its files, its clock and its source of random bytes.
-/

namespace Attest.Machine

/-- The file problem that the number of an operating system error stands for, whatever its sign. -/
def ofNumber (code : UInt32) : FileProblem :=
  match code.toInt32.toInt.natAbs with
  | 2 => .absent
  | 17 => .occupied
  | 20 => .notFolder
  | 21 => .isFolder
  | 36 => .nameTooLong
  | _ => .denied

def problemOf : IO.Error → FileProblem
  | .noFileOrDirectory .. => .absent
  | .alreadyExists .. => .occupied
  | .inappropriateType _ code _ | .invalidArgument _ code _ => ofNumber code
  | _ => .denied

def attempt {α : Type} (act : IO α) : IO (Except FileProblem α) := do
  try return .ok (← act)
  catch e => return .error (problemOf e)

/-- Whether something stands at a path. What may not be read is there. -/
def isThere (path : String) : IO (Except FileProblem Bool) := do
  match ← attempt (IO.FS.Handle.mk path .read) with
  | .error .nameTooLong => return .error .nameTooLong
  | .error .absent | .error .notFolder => return .ok false
  | _ => return .ok true

def append (path : String) (content : Bytes) : IO Unit := do
  let file ← IO.FS.Handle.mk path .append
  file.write ⟨content.toArray⟩

def folder : IO (Option String) := do
  match ← attempt IO.currentDir with
  | .ok folder => return some folder.toString
  | .error _ => return none

/-- The user's own folder as a variable tells it. What stands for the folder of some user is none.
-/
def homeOf (told : String) : Option String :=
  let path := (told.toList.reverse.dropWhile (· = '/')).reverse
  if path.head? = some '~' then none
  else if path.isEmpty then some "/"
  else some (String.ofList path)

/-- The user's own folder. Where no variable tells it, it is the root. -/
def home : IO (Option String) := do
  match ← IO.getEnv "HOME" with
  | some told => return homeOf told
  | none => return some "/"

def clock : IO Nat := do
  let now ← Std.Time.Timestamp.now
  return now.toMillisecondsSinceUnixEpoch.val.toNat * 10

instance : Host IO where
  isThere := isThere
  read path := attempt do return (← IO.FS.readBinFile path).toList
  write path content := attempt (IO.FS.writeBinFile path ⟨content.toArray⟩)
  append path content := attempt (append path content)
  folder := folder
  home := home
  clock := clock
  random count := return (← IO.getRandomBytes count.toUSize).toList

/-- The variables that settings are read from. -/
def environment : IO Environment :=
  Environment.names.filterMapM fun name => do
    return (← IO.getEnv name).map fun value => (name, value)

def escapedCode : UInt32 := 1

end Attest.Machine

/-- Runs the program. -/
def main (args : List String) : IO UInt32 := do
  let o ← Attest.runProgram .ed25519 (← Attest.Machine.environment) args
  IO.print o.out
  IO.eprint o.err
  match o.result with
  | .ok code => return UInt32.ofNat code
  | .error e =>
    IO.eprintln s!"Traceback (most recent call last):\n{e.name}: {e.message}"
    return Attest.Machine.escapedCode
