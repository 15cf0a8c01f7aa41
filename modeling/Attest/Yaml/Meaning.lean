import Attest.Yaml.Data
import Attest.Yaml.Document

/-!
# What documents stand for

The nodes of a document are given their meaning one after the other, each of them once. A scalar has
its meaning as soon as it is met; a list or a map is empty at first and waits to be filled until all
that waits before it is. So of two faults the one that is less deep comes first.

Maps are filled after they have taken over the entries they ask for. What becomes of the kinds that
no data has is a fault of the node.
-/

namespace Attest.Yaml

/-- What a node stands for, its parts by number. -/
inductive Meaning where
  | scalar (s : Scalar)
  | list (items : List Ref)
  | pairs (items : List (Ref × Ref))
  | map (entries : List (Scalar × Ref))
  | set (members : List Scalar)

/-- The state of an interpretation: the nodes, the meanings found, and the nodes that wait to be
filled, in order. -/
structure Interpretation where
  graph : Graph
  meanings : Array (Option Meaning)
  waiting : Array Ref

abbrev Interpret := StateT Interpretation (Except Failure)

namespace Interpret

def refuse {α : Type} : Interpret α :=
  throw (.badYaml .construction)

def assign (r : Ref) (m : Meaning) : Interpret Unit :=
  modify fun i => { i with meanings := i.meanings.setIfInBounds r (some m) }

/-! ## Scalars -/

/-- The text of a scalar. A map stands for a text too if one of its keys says so, the value of which
it is then; the fuel is more than the number of nodes, and runs out on a map that is its own value.
-/
def textOf (g : Graph) : (fuel : Nat) → Ref → Except Failure String
  | 0, _ => .error .tooManyLevels
  | fuel + 1, r =>
    match g.node r with
    | .scalar _ text => .ok text
    | .list .. => .error (.badYaml .construction)
    | .map _ entries =>
      match entries.find? fun (k, _) => (g.node k).tag = .value with
      | some (_, v) => textOf g fuel v
      | none => .error (.badYaml .construction)

/-- The scalar that a node of a scalar's kind stands for. A time has to be written as a scalar. -/
def scalarOf (g : Graph) (r : Ref) : Except Failure Scalar := do
  let text ← textOf g (g.nodes.size + 1) r
  match g.node r with
  | .map .time _ => throw (.badType "expected string or bytes-like object, got 'list'")
  | n => Scalar.read n.tag text

def isScalarKind (tag : Tag) : Bool :=
  [.null, .bool, .int, .float, .text, .time, .bytes].contains tag

/-! ## Parts -/

/-- What a node stands for, as far as it is known when the node is met. -/
def meet (r : Ref) : Interpret Meaning := do
  let i ← get
  if let some m := i.meanings.getD r none then return m
  let tag := (i.graph.node r).tag
  let wait (m : Meaning) : Interpret Meaning := do
    assign r m
    modify fun i => { i with waiting := i.waiting.push r }
    return m
  match tag with
  | .list => wait (.list [])
  | .pairs => wait (.pairs [])
  | .map => wait (.map [])
  | .set => wait (.set [])
  | tag =>
    if !isScalarKind tag then refuse
    let m := Meaning.scalar (← scalarOf i.graph r)
    assign r m
    return m

def key (r : Ref) : Interpret Scalar := do
  match ← meet r with
  | .scalar s => return s
  | _ => refuse

/-- Sets an entry: in its place if its key is there, else at the end. -/
def setEntry (entries : List (Scalar × Ref)) (key : Scalar) (r : Ref) : List (Scalar × Ref) :=
  match entries with
  | [] => [(key, r)]
  | (k, e) :: rest => if k.isSameKey key then (k, r) :: rest else (k, e) :: setEntry rest key r

def entriesOf (r : Ref) : Interpret (List (Scalar × Ref)) := do
  match (← get).graph.node r with
  | .map .. =>
    let graph ← (← get).graph.merge r
    modify fun i => { i with graph }
    (graph.entries r).foldlM (fun entries (k, v) => do
      let name ← key k
      let _ ← meet v
      return setEntry entries name v) []
  | _ => refuse

def pairOf (r : Ref) : Interpret (Ref × Ref) := do
  match (← get).graph.node r with
  | .map _ [(k, v)] =>
    let _ ← meet k
    let _ ← meet v
    return (k, v)
  | _ => refuse

def fill (r : Ref) : Interpret Unit := do
  match (← get).graph.node r with
  | .list .list items =>
    items.forM fun item => do let _ ← meet item
    assign r (.list items)
  | .list .pairs items => assign r (.pairs (← items.mapM pairOf))
  | .map .map _ => assign r (.map (← entriesOf r))
  | .map .set _ => assign r (.set ((← entriesOf r).map (·.1)))
  | _ => refuse

/-- Fills all that waits from a place on. Each node waits once. -/
def fillFrom (place : Nat) : (fuel : Nat) → Interpret Unit
  | 0 => return ()
  | fuel + 1 => do
    match (← get).waiting[place]? with
    | some r =>
      fill r
      fillFrom (place + 1) fuel
    | none => return ()

end Interpret

def Document.interpret (d : Document) : Except Failure (Array (Option Meaning)) := do
  let size := d.graph.nodes.size
  let start : Interpretation :=
    { graph := d.graph, meanings := Array.replicate size none, waiting := #[] }
  let run : Interpret Unit := do
    let _ ← Interpret.meet d.root
    Interpret.fillFrom 0 (size + 1)
  return (← run.run start).2.meanings

/-! ## Data -/

namespace Data

/-- What makes data of meanings: the data made so far by number. -/
abbrev Make := StateM (Array (Option Data))

/-- The data of a node. It is made once; inside of itself a node stands for nothing. The fuel is
more than the number of nodes. -/
def make (meanings : Array (Option Meaning)) : (fuel : Nat) → Ref → Make Data
  | 0, _ => return .scalar .null
  | fuel + 1, r => do
    if let some d := (← get).getD r none then return d
    modify (·.setIfInBounds r (some (.scalar .null)))
    let d ← match meanings.getD r none with
      | none => pure (.scalar .null)
      | some (.scalar s) => pure (.scalar s)
      | some (.set members) => pure (.set members)
      | some (.list items) => Data.list <$> items.mapM (make meanings fuel)
      | some (.pairs items) =>
        Data.list <$> items.mapM fun (k, v) => do
          let first ← make meanings fuel k
          return .list [first, ← make meanings fuel v]
      | some (.map entries) =>
        Data.map <$> entries.mapM fun (k, v) => do return (k, ← make meanings fuel v)
    modify (·.setIfInBounds r (some d))
    return d

def ofDocument (d : Document) : Except Failure Data := do
  let meanings ← d.interpret
  let size := meanings.size
  return ((make meanings (size + 1) d.root).run (Array.replicate size none)).1

/-- Reads what is supplied. A text without a document is nothing. -/
def read (supply : Supply) : Except Failure Data := do
  match ← Document.read? supply with
  | some d => ofDocument d
  | none => return .scalar .null

end Data

end Attest.Yaml
