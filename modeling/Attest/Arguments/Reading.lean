import Attest.Arguments.Token
import Attest.Given

/-!
# Reading arguments

Tokens are read from left to right. The operands of a program are taken together, where the first of
them stands; a subcommand takes all that follows it. What no grammar knows is gathered and refused
at the end, after everything else. A switch whose value is a double dash is there, but its value is
not a text.
-/

namespace Attest.Arguments

/-! ## What is given -/

/-- The arguments as they are understood: the subcommands chosen, the switches in order with their
values, the operands, and what no grammar knows. -/
structure Matches where
  path : List String
  given : List (Switch × Given String)
  operands : List String
  unknown : List String
  deriving Repr

namespace Matches

def empty : Matches := { path := [], given := [], operands := [], unknown := [] }

def has (m : Matches) (key : String) : Bool :=
  m.given.any fun (s, _) => s.key = key

def value? (m : Matches) (key : String) : Option (Given String) :=
  (m.given.reverse.find? fun (s, _) => s.key = key).map (·.2)

def text? (m : Matches) (key : String) : Option String :=
  (m.value? key).bind Given.proper?

def number? (m : Matches) (key : String) : Option Value :=
  (m.value? key).map fun
    | .proper s => .int ((Numeral.parse s).toOption.getD 0)
    | .other v => v

def append (outer inner : Matches) : Matches where
  path := outer.path ++ inner.path
  given := outer.given ++ inner.given
  operands := outer.operands ++ inner.operands
  unknown := outer.unknown ++ inner.unknown

end Matches

def Format.check : Format → String → Option Problem
  | .text, _ => none
  | .integer, s => if (Numeral.parse s).toOption.isSome then none else some (.notInteger s)
  | .oneOf choices, s => if choices.contains s then none else some (.notAmong s choices)

inductive Stop where
  | help (usage : String)
  | version
  | refused (program usage : String) (complaint : Complaint)
  deriving Repr

/-- Why reading ends within one grammar. -/
inductive Halt where
  | help
  | version
  | complaint (c : Complaint)

def about {α : Type} (name : String) (problem : Problem) : Except Halt α :=
  .error (.complaint (.argument name problem))

/-- The value that an argument stands for: itself, or an empty list if it is a double dash. -/
def valueOf (s : String) : Given String :=
  if s = "--" then .other (.list []) else .proper s

def give (oneOf : List String) (m : Matches) (s : Switch) (value : String) :
    Except Halt Matches :=
  match s.role with
  | .help => .error .help
  | .version => .error .version
  | .flag | .value =>
    let value := valueOf value
    match value.proper?.bind s.format.check with
    | some problem => about s.shown problem
    | none =>
      let other? := if oneOf.contains s.key then
          (m.given.map (·.1)).find? fun o => o.key ≠ s.key && oneOf.contains o.key
        else none
      match other? with
      | some other => about s.shown (.notBeside other.shown)
      | none => .ok { m with given := m.given ++ [(s, value)] }

/-- What an argument holds: switches with their values, and whether the operand after it is one of
the values. -/
structure Held where
  given : List (Switch × String)
  usesNext : Bool

/-- A switch with the value assigned to it, or else with the operand that follows if it takes a
value. -/
def settle (following : Option String) (s : Switch) (assigned : Option (List Char)) :
    Except Halt Held :=
  match s.takesValue, assigned, following with
  | true, some value, _ =>
    .ok { given := [(s, String.ofList value)], usesNext := false }
  | true, none, some v => .ok { given := [(s, v)], usesNext := true }
  | true, none, none => about s.shown .valueMissing
  | false, some value, _ => about s.shown (.valueIgnored (String.ofList value))
  | false, none, _ => .ok { given := [(s, "")], usesNext := false }

/-- A switch with what comes with its short name: a value, or after a flag more short names, all of
which have to be known. -/
def settleJoined (switches : List Switch) (following : Option String) (s : Switch) :
    List Char → Except Halt Held
  | [] => settle following s (some [])
  | c :: rest =>
    if s.takesValue then settle following s (some (c :: rest))
    else
      match (namesOf switches).lookup (String.ofList ['-', c]) with
      | none => about s.shown (.valueIgnored (String.ofList (c :: rest)))
      | some next => do
        let held ←
          if rest.isEmpty then settle following next none
          else settleJoined switches following next rest
        return { held with given := (s, "") :: held.given }

def Reading.settle (switches : List Switch) (following : Option String) (r : Reading) :
    Except Halt Held :=
  match r.attached with
  | .none => Arguments.settle following r.switch none
  | .assigned value =>
    if r.name.startsWith "--" then Arguments.settle following r.switch (some value)
    else settleJoined switches following r.switch value
  | .joined value => settleJoined switches following r.switch value

/-! ## Reading -/

/-- What operands may come: none any more, those of a program, or a subcommand. -/
inductive Slot where
  | closed
  | operand (o : Operand)
  | choice (name : String) (among : List String)

/-- The operands at the front of tokens, and the tokens after them. The double dash is none of them.
-/
def takeMany : List Token → List String × List Token
  | .operand s :: rest => let (taken, left) := takeMany rest; (s :: taken, left)
  | .dashes :: rest => takeMany rest
  | ts => ([], ts)

/-- One operand at the front, with a double dash before or after it, and the tokens after it. -/
def takeOne? : List Token → Option (String × List Token)
  | .dashes :: .operand s :: rest => some (s, rest)
  | .operand s :: .dashes :: rest => some (s, rest)
  | .operand s :: rest => some (s, rest)
  | _ => none

/-- The operands that a program takes from the front of tokens, and the tokens after them. There is
nothing to take where a needed operand is missing. -/
def Arity.take? (a : Arity) (ts : List Token) : Option (List String × List Token) :=
  match a, takeOne? ts with
  | .many, _ => some (takeMany ts)
  | _, some (s, rest) => some ([s], rest)
  | .one, none => none
  | .optional, none =>
    match ts with
    | .dashes :: rest => some ([], rest)
    | ts => some ([], ts)

/-- What the arguments of one program come to: what it understands, the slot that is left, and the
subcommand chosen with its arguments. -/
structure Level where
  found : Matches
  slot : Slot
  chosen : Option (String × List String)

def giveAll (oneOf : List String) (m : Matches) :
    List (Switch × String) → Except Halt Matches
  | [] => .ok m
  | (s, value) :: rest => do giveAll oneOf (← give oneOf m s value) rest

/-- Goes on after operands with `next`: the next token is unknown unless it is a switch. -/
def finish (next : Slot → Matches → List Token → Except Halt Level) (slot : Slot) (m : Matches)
    (ts : List Token) : Except Halt Level :=
  match ts with
  | [] => .ok { found := m, slot, chosen := none }
  | .switch .. :: _ => next slot m ts
  | t :: rest => next slot { m with unknown := m.unknown ++ [t.text] } rest

/-- Reads tokens in order. The operands are taken together, where the first of them stands. The fuel
is more than the number of tokens. -/
def walk (switches : List Switch) (oneOf : List String) : (fuel : Nat) → Slot → Matches →
    List Token → Except Halt Level
  | 0, slot, m, ts =>
    .ok { found := { m with unknown := m.unknown ++ ts.map (·.text) }, slot, chosen := none }
  | fuel + 1, slot, m, ts =>
    match ts with
    | .switch text none :: rest =>
      walk switches oneOf fuel slot { m with unknown := m.unknown ++ [text] } rest
    | .switch _ (some reading) :: rest => do
      let following := match rest with
        | .operand s :: _ => some s
        | _ => none
      let held ← reading.settle switches following
      let m ← giveAll oneOf m held.given
      walk switches oneOf fuel slot m (if held.usesNext then rest.tail else rest)
    | ts =>
      let finish := finish (walk switches oneOf fuel)
      match slot with
      | .operand o =>
        match o.arity.take? ts with
        | some (taken, rest) => finish .closed { m with operands := m.operands ++ taken } rest
        | none => finish slot m ts
      | .choice name among =>
        match takeOne? ts with
        | none => finish slot m ts
        | some _ =>
          match ts.map (·.text) with
          | [] => finish slot m ts
          | first :: rest =>
            if among.contains first then
              .ok { found := m, slot := .closed, chosen := some (first, rest) }
            else about name (.notAmong first among)
      | .closed => finish slot m ts

def missing (switches : List Switch) (oneOf : List String) (level : Level) : Option Complaint :=
  let operand := match level.slot with
    | .operand { name, arity := .one } => [name]
    | _ => []
  let needed := switches.filter fun s => s.isRequired && !level.found.has s.key
  let names := operand ++ needed.map (·.shown)
  if !names.isEmpty then some (.missing names)
  else if oneOf.isEmpty || oneOf.any level.found.has then none
  else some (.missingOneOf ((switches.filter fun s => oneOf.contains s.key).map (·.shown)))

/-- Reads the arguments of one program. -/
def readLevel (switches : List Switch) (oneOf : List String) (slot : Slot) (args : List String) :
    Except Halt Level := do
  let tokens ← (tokensOf switches args).mapError .complaint
  let level ← walk switches oneOf (tokens.length + 1) slot .empty tokens
  match missing switches oneOf level with
  | some c => throw (.complaint c)
  | none => return level

namespace Grammar

def program : Grammar → String
  | leaf program .. | branch program .. => program

def showSwitch (s : Switch) : String :=
  let name := s.key ++ (if s.takesValue then " VALUE" else "")
  if s.isRequired then name else "[" ++ name ++ "]"

def showOperand (o : Operand) : String :=
  match o.arity with
  | .one => o.name
  | .optional => "[" ++ o.name ++ "]"
  | .many => "[" ++ o.name ++ " ...]"

def usage (g : Grammar) : String :=
  let (program, switches, tail) : String × List Switch × List String := match g with
    | leaf program switches _ operand => (program, switches, (operand.map showOperand).toList)
    | branch program switches _ subcommands =>
      (program, switches, ["|".intercalate (subcommands.map fun (name, _) => name) ++ " ..."])
  String.intercalate " " (["usage:", program] ++ switches.map showSwitch ++ tail)

def stop (g : Grammar) : Halt → Stop
  | .help => .help g.usage
  | .version => .version
  | .complaint c => .refused g.program g.usage c

mutual

def read : Grammar → List String → Except Stop Matches
  | leaf program switches oneOf operand, args => do
    let slot := match operand with
      | some o => Slot.operand o
      | none => .closed
    let level ← (readLevel switches oneOf slot args).mapError
      (leaf program switches oneOf operand).stop
    return level.found
  | branch program switches choice subcommands, args => do
    let slot := Slot.choice choice (subcommands.map (·.1))
    let level ← (readLevel switches [] slot args).mapError
      (branch program switches choice subcommands).stop
    match level.chosen with
    | none => return level.found
    | some (name, rest) => return level.found.append (← readIn subcommands name rest)

def readIn : List (String × Grammar) → String → List String → Except Stop Matches
  | [], _, _ => .ok .empty
  | (n, g) :: more, name, args =>
    if n = name then (g.read args).map fun m => { m with path := name :: m.path }
    else readIn more name args

end

def parse (g : Grammar) (args : List String) : Except Stop Matches := do
  let m ← g.read args
  if m.unknown.isEmpty then return m
  throw (.refused g.program g.usage (.unknown m.unknown))

end Grammar

end Attest.Arguments
