import Attest.Failure
import Attest.Yaml.Tag

/-!
# The graph of a document

A document is a graph of nodes: scalars, lists of nodes, and maps from nodes to nodes. A node that
has a name may stand in several places, even inside of itself, so nodes are told apart by number.

A map may take over the entries of other maps. That is done on the graph (`Graph.merge`): the
entries taken over come first, so that the map's own win.
-/

namespace Attest.Yaml

abbrev Ref := Nat

inductive Node where
  | scalar (tag : Tag) (text : String)
  | list (tag : Tag) (items : List Ref)
  | map (tag : Tag) (entries : List (Ref × Ref))
  deriving Repr

def Node.tag : Node → Tag
  | scalar tag _ | list tag _ | map tag _ => tag

def Node.withTag (tag : Tag) : Node → Node
  | scalar _ text => scalar tag text
  | list _ items => list tag items
  | map _ entries => map tag entries

def Node.empty : Node :=
  .scalar .null ""

structure Graph where
  nodes : Array Node
  deriving Repr

namespace Graph

def empty : Graph where
  nodes := #[]

def node (g : Graph) (r : Ref) : Node :=
  g.nodes.getD r .empty

def add (g : Graph) (n : Node) : Ref × Graph :=
  (g.nodes.size, { nodes := g.nodes.push n })

def put (g : Graph) (r : Ref) (n : Node) : Graph where
  nodes := g.nodes.setIfInBounds r n

def entries (g : Graph) (r : Ref) : List (Ref × Ref) :=
  match g.node r with
  | .map _ entries => entries
  | _ => []

def setEntries (g : Graph) (r : Ref) (entries : List (Ref × Ref)) : Graph :=
  match g.node r with
  | .map tag _ => g.put r (.map tag entries)
  | _ => g

def entryCount (g : Graph) : Nat :=
  (g.nodes.map fun
    | .map _ entries => entries.length
    | _ => 0).foldl (· + ·) 0

/-! ## Merging -/

/-- The place of the first entry of a map whose key asks for the entries of other maps. -/
def mergePlace? (g : Graph) (r : Ref) : Option Nat :=
  (g.entries r).findIdx? fun (k, _) => (g.node k).tag = .merge

/-- The maps whose entries a node asks for; those of a later one come first. -/
def sources (g : Graph) (r : Ref) : Except Failure (List Ref) :=
  match g.node r with
  | .map .. => .ok [r]
  | .list _ items => .ok items
  | .scalar .. => .error (.badYaml .construction)

def demandMap (g : Graph) (r : Ref) : Except Failure Unit :=
  match g.node r with
  | .map .. => .ok ()
  | _ => .error (.badYaml .construction)

def plainKeys (g : Graph) (r : Ref) : Graph :=
  (g.entries r).foldl (fun g (k, _) =>
    let n := g.node k
    if n.tag = .value then g.put k (n.withTag .text) else g) g

/-- Gives a map the entries that it asks for, after those in `taken`. The fuel is more than the
number of entries that ask, of which each call removes one. -/
def mergeInto : (fuel : Nat) → (r : Ref) → (taken : List (Ref × Ref)) →
    StateT Graph (Except Failure) Unit
  | 0, _, _ => return ()
  | fuel + 1, r, taken => do
    let g ← get
    match g.mergePlace? r with
    | none =>
      let g := g.setEntries r (taken ++ g.entries r)
      set (g.plainKeys r)
    | some i =>
      let asked := (((g.entries r)[i]?).map (·.2)).getD 0
      set (g.setEntries r ((g.entries r).eraseIdx i))
      let lists ← (← g.sources asked).mapM fun source => do
        (← get).demandMap source
        mergeInto fuel source []
        return (← get).entries source
      mergeInto fuel r (taken ++ lists.reverse.flatten)

/-- Gives a map the entries that it asks for. -/
def merge (g : Graph) (r : Ref) : Except Failure Graph := do
  return (← (mergeInto (g.entryCount + 1) r []).run g).2

end Graph

end Attest.Yaml
