import Attest.Host

/-!
# A host in memory

A tree of folders and files with a fixed time and bytes to hand out as random ones. A path is
followed part by part from the root or the working folder, and each part but the last has to be a
folder. Where the working folder is not there any more, nothing is at a path that starts in it.
-/

namespace Attest

inductive Entry where
  | folder
  | file (content : Bytes)
  deriving DecidableEq

/-- A place: the parts of its path from the root. -/
abbrev Place := List String

/-- A host in memory. The root and the folders named here are always there. -/
structure World where
  folder : Option String
  home : Option String
  entries : List (Place × Entry)
  time : Nat
  entropy : Bytes

namespace World

def placeOf (folder : Option String) : Place :=
  (folder.map Path.parts).getD []

def entryAt? (w : World) (place : Place) : Option Entry :=
  if place.isPrefixOf (placeOf w.folder) || place.isPrefixOf (placeOf w.home) then some .folder
  else List.lookup place w.entries

def put (w : World) (place : Place) (entry : Entry) : World :=
  { w with entries := (place, entry) :: w.entries.filter (·.1 ≠ place) }

/-- Puts an entry at a place and folders at the places above it. -/
def plant (w : World) (place : Place) (entry : Entry) : World :=
  let above := ((List.range place.length).map place.take).filter fun p => (w.entryAt? p).isNone
  (above.foldl (fun w p => w.put p .folder) w).put place entry

/-- The longest part that a path may have, in bytes. -/
def longestPart : Nat := 255

def longestPath : Nat := 4095

/-- Follows parts from a folder. All parts but the last have to lead to folders. -/
def follow (w : World) (place : Place) : List String → Except FileProblem Place
  | [] => .ok place
  | part :: rest =>
    match w.entryAt? place with
    | none => .error .absent
    | some (.file _) => .error .notFolder
    | some .folder =>
      if longestPart < part.utf8ByteSize then .error .nameTooLong
      else if part = ".." then follow w place.dropLast rest
      else follow w (place ++ [part]) rest

/-- The place that a path leads to. -/
def locate (w : World) (path : String) : Except FileProblem Place :=
  if longestPath < path.utf8ByteSize then .error .nameTooLong
  else if Path.isAbsolute path then w.follow [] (Path.parts path)
  else if w.folder.isNone then .error .absent
  else w.follow (placeOf w.folder) (Path.parts path)

def isThere (w : World) (path : String) : Except FileProblem Bool :=
  match w.locate path with
  | .ok place => .ok (w.entryAt? place).isSome
  | .error .nameTooLong => .error .nameTooLong
  | .error _ => .ok false

def read (w : World) (path : String) : Except FileProblem Bytes := do
  match w.entryAt? (← w.locate path) with
  | some (.file content) => return content
  | some .folder => throw .isFolder
  | none => throw .absent

def change (w : World) (path : String) (f : Bytes → Bytes) : Except FileProblem World := do
  let place ← w.locate path
  match w.entryAt? place with
  | some (.file content) => return w.put place (.file (f content))
  | some .folder => throw .isFolder
  | none => return w.put place (.file (f []))

/-- Changes the content of a file of the host, which stays as it is when that fails. -/
def update (path : String) (f : Bytes → Bytes) : StateM World (Except FileProblem Unit) :=
  fun w =>
    match w.change path f with
    | .ok w => (.ok (), w)
    | .error problem => (.error problem, w)

instance : Host (StateM World) where
  isThere path := fun w => (w.isThere path, w)
  read path := fun w => (w.read path, w)
  write path content := update path fun _ => content
  append path content := update path (· ++ content)
  folder := fun w => (w.folder, w)
  home := fun w => (w.home, w)
  clock := fun w => (w.time, w)
  random count := fun w => (w.entropy.take count, { w with entropy := w.entropy.drop count })

end World

end Attest
