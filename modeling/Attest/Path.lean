/-!
# Paths

A path is kept as text in its normal form: single slashes, no empty parts and no parts that are a
single dot. Parts that are two dots stay, because what they lead to depends on the folders that
there are.
-/

namespace Attest.Path

/-- Cuts at slashes, `part` being what has been read of the current part, last character first. -/
def cutFrom (part : List Char) : List Char → List (List Char)
  | [] => [part.reverse]
  | '/' :: rest => part.reverse :: cutFrom [] rest
  | c :: rest => cutFrom (c :: part) rest

def parts (s : String) : List String :=
  ((cutFrom [] s.toList).map String.ofList).filter fun part => part ≠ "" && part ≠ "."

/-- What stands before the first part: two slashes stand for themselves, more for one. -/
def rootOf (s : String) : String :=
  match s.toList.takeWhile (· = '/') with
  | [] => ""
  | [_, _] => "//"
  | _ => "/"

/-- The normal form of a path. The empty path is the working folder. -/
def normalise (s : String) : String :=
  let path := rootOf s ++ String.intercalate "/" (parts s)
  if path.isEmpty then "." else path

def isAbsolute (s : String) : Bool :=
  s.toList.head? = some '/'

/-- Takes back a part for each two dots, `above` being the parts before, last first. -/
def collapse (above : List String) : List String → List String
  | [] => above.reverse
  | ".." :: rest => collapse above.tail rest
  | part :: rest => collapse (part :: above) rest

/-- The path from the root, by its text alone. -/
def absolute (folder s : String) : String :=
  let path := if isAbsolute s then s else folder ++ "/" ++ s
  rootOf path ++ String.intercalate "/" (collapse [] (parts path))

def inside (folder s : String) : String :=
  normalise (folder ++ "/" ++ s)

end Attest.Path
