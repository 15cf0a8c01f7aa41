import Attest.Arguments.Grammar

/-!
# Arguments as tokens

Each argument before a double dash is an operand or a switch, and each after it an operand. A switch
may be spelled by any start of a long name that no other long name has, and a short name may be
followed by its value at once. What looks like a negative number or holds a space is no switch,
unless it is one by its name.
-/

namespace Attest.Arguments

/-- The value that comes with the name of a switch: none, one that follows the name at once, or one
that follows an equals sign. -/
inductive Attached where
  | none
  | joined (value : List Char)
  | assigned (value : List Char)
  deriving DecidableEq, Repr

/-- An argument as a switch: the switch, the name by which it is given, and what comes with it. -/
structure Reading where
  switch : Switch
  name : String
  attached : Attached
  deriving Repr

/-- An argument: an operand, the double dash, or a switch, which may be unknown. -/
inductive Token where
  | operand (text : String)
  | dashes
  | switch (text : String) (reading : Option Reading)
  deriving Repr

def Token.text : Token → String
  | operand text => text
  | dashes => "--"
  | switch text _ => text

def isNegativeNumber (s : String) : Bool :=
  match s.toList with
  | '-' :: cs =>
    let cs := if cs.getLast? = some '\n' then cs.dropLast else cs
    let isDigit (c : Char) := (Numeral.digit? c).isSome
    match cs.dropWhile isDigit with
    | [] => !cs.isEmpty
    | '.' :: fraction => !fraction.isEmpty && fraction.all isDigit
    | _ => false
  | _ => false

def namesOf (switches : List Switch) : List (String × Switch) :=
  switches.flatMap fun s => s.names.map fun name => (name, s)

/-- The readings of an argument that is no name itself: for a long name, the names that begin with
what stands before an equals sign; for a short name, the name of its first two characters. -/
def readings (switches : List Switch) (cs : List Char) : List Reading :=
  let names := namesOf switches
  match cs with
  | '-' :: '-' :: _ =>
    let start := cs.takeWhile (· ≠ '=')
    let attached := match cs.dropWhile (· ≠ '=') with
      | _ :: value => Attached.assigned value
      | [] => .none
    names.filterMap fun (name, switch) =>
      if start.isPrefixOf name.toList then some { switch, name, attached } else none
  | _ =>
    names.filterMap fun (name, switch) =>
      if name.toList = cs.take 2 then some { switch, name, attached := .joined (cs.drop 2) }
      else if cs.isPrefixOf name.toList then some { switch, name, attached := .none }
      else none

def tokenOf (switches : List Switch) (a : String) : Except Complaint Token :=
  let cs := a.toList
  let names := namesOf switches
  if cs.head? ≠ some '-' then .ok (.operand a)
  else if let some switch := names.lookup a then
    .ok (.switch a (some { switch, name := a, attached := .none }))
  else if cs.length = 1 then .ok (.operand a)
  else
    let name := String.ofList (cs.takeWhile (· ≠ '='))
    match cs.dropWhile (· ≠ '='), names.lookup name with
    | _ :: value, some switch =>
      .ok (.switch a (some { switch, name, attached := .assigned value }))
    | _, _ =>
      match readings switches cs with
      | [reading] => .ok (.switch a (some reading))
      | [] =>
        if isNegativeNumber a || cs.contains ' ' then .ok (.operand a)
        else .ok (.switch a none)
      | several => .error (.ambiguous a (several.map (·.name)))

def tokensOf (switches : List Switch) : List String → Except Complaint (List Token)
  | [] => .ok []
  | a :: rest =>
    if a = "--" then .ok (.dashes :: rest.map .operand)
    else do
      let token ← tokenOf switches a
      return token :: (← tokensOf switches rest)

end Attest.Arguments
