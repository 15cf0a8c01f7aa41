import Attest.Yaml.Graph
import Attest.Yaml.Scan.Stream

/-!
# Documents of YAML

A text holds at most one document, whose tokens tell of nodes. An anchor names a node, and an alias
behind it stands for the node named, which may be one that the alias is part of. Nodes may not stand
within too many others.
-/

namespace Attest.Yaml

/-- A document: its nodes, and the one that it is. -/
structure Document where
  graph : Graph
  root : Ref
  deriving Repr

/-- What has been said so far: what the handles of tags stand for, the nodes, the names of some, and
the number of nodes that are not complete yet.
-/
structure Context where
  handles : List (String × String)
  anchors : List (String × Ref)
  graph : Graph
  depth : Nat

def Context.usualHandles : List (String × String) :=
  [("!", "!"), ("!!", Tag.usualStart)]

def Context.start : Context where
  handles := usualHandles
  anchors := []
  graph := .empty
  depth := 0

abbrev Compose := StateT Context Scan

namespace Compose

def next : Compose Token :=
  Scan.next

def take : Compose Unit :=
  Scan.take

def refuse {α : Type} (f : Fault) : Compose α :=
  throw (.badYaml f)

/-! ## What stands before a node -/

/-- The anchor and the tag of a node. -/
structure Marks where
  anchor : Option String
  tag : Option String

def anchor? : Compose (Option String) := do
  match ← next with
  | .anchor name =>
    take
    return some name
  | _ => return none

def tag? : Compose (Option (Option String × String)) := do
  match ← next with
  | .tag handle suffix =>
    take
    return some (handle, suffix)
  | _ => return none

def fullTag : Option String × String → Compose String
  | (none, suffix) => return suffix
  | (some handle, suffix) => do
    match (← get).handles.lookup handle with
    | some text => return text ++ suffix
    | none => refuse .grammar

def marks : Compose Marks := do
  let early ← anchor?
  let tag ← tag?
  let late ← if early.isNone && tag.isSome then anchor? else pure none
  return { anchor := early <|> late, tag := ← tag.mapM fullTag }

def checkAnchor (m : Marks) : Compose Unit := do
  if let some name := m.anchor then
    if ((← get).anchors.lookup name).isSome then refuse .reference

def addNode (m : Marks) (n : Node) : Compose Ref := do
  checkAnchor m
  let c ← get
  let (r, graph) := c.graph.add n
  let anchors := match m.anchor with
    | some name => (name, r) :: c.anchors
    | none => c.anchors
  set { c with graph, anchors }
  return r

def addEmpty : Compose Ref :=
  addNode ⟨none, none⟩ .empty

/-- The node that an alias stands for. -/
def aliased (name : String) : Compose Ref := do
  match (← get).anchors.lookup name with
  | some r => return r
  | none => refuse .reference

def Marks.kind (m : Marks) (usual : Tag) : Tag :=
  match m.tag with
  | none | some "!" => usual
  | some name => .ofName name

/-- The kind of a scalar. A lone mark counts as a tag that leaves the kind to the form. -/
def Marks.scalarKind (m : Marks) (text : String) (isPlain : Bool) : Tag :=
  match m.tag with
  | none => if isPlain then .ofForm text else .text
  | some "!" => .ofForm text
  | some name => .ofName name

def scalar (m : Marks) (text : String) (isPlain : Bool) : Compose Ref :=
  addNode m (.scalar (m.scalarKind text isPlain) text)

/-- The number of nodes that a node may stand within. -/
def depthLimit : Nat := 489

/-- A node that has parts. It is there before them, so that they may refer to it. -/
def compound {α : Type} (m : Marks) (parts : Compose α) (build : α → Node) (start : α) :
    Compose Ref := do
  let depth := (← get).depth
  if depthLimit ≤ depth then throw .tooManyLevels
  let r ← addNode m (build start)
  modify fun c => { c with depth := depth + 1 }
  let node := build (← parts)
  modify fun c => { c with graph := c.graph.put r node, depth }
  return r

/-! ## Nodes -/

/-- Where a node stands: in a flow collection, in a block collection, or where a list may be
indented no more than what it belongs to. -/
inductive Place where
  | flow
  | block
  | entry
  deriving DecidableEq

/-- Whether an entry of a map in a flow collection is empty before a token; `close` ends the
collection. -/
def isFlowStop (close t : Token) : Bool :=
  t = .flowEntry || t = close

def isBlockStop (t : Token) : Bool :=
  t = .key || t = .value || t = .blockEnd

def comma (isFirst : Bool) : Compose Unit := do
  if !isFirst then
    if (← next) = .flowEntry then take else refuse .grammar

mutual

/-- A node. The fuel bounds the depth and the number of entries; the number of characters is enough.
-/
def node (place : Place) : (fuel : Nat) → Compose Ref
  | 0 => refuse .grammar
  | fuel + 1 => do
    if let .alias name ← next then
      take
      return ← aliased name
    let m ← marks
    let listOf (items : Compose (List Ref)) := compound m items (.list (m.kind .list)) []
    let mapOf (entries : Compose (List (Ref × Ref))) := compound m entries (.map (m.kind .map)) []
    let isBlock := place ≠ .flow
    match ← next with
    | .scalar text isPlain =>
      take
      scalar m text isPlain
    | .flowSequenceStart => listOf (do take; flowItems fuel true)
    | .flowMappingStart => mapOf (do take; flowEntries fuel true)
    | t =>
      if place = .entry && t = .blockEntry then listOf (looseItems fuel)
      else if isBlock && t = .blockSequenceStart then listOf (do take; blockItems fuel)
      else if isBlock && t = .blockMappingStart then mapOf (do take; blockEntries fuel)
      else if m.anchor.isSome || m.tag.isSome then scalar m "" (m.tag.isNone)
      else refuse .grammar

def blockItems : (fuel : Nat) → Compose (List Ref)
  | 0 => refuse .grammar
  | fuel + 1 => do
    match ← next with
    | .blockEntry =>
      take
      let t ← next
      let item ← if t = .blockEntry || t = .blockEnd then addEmpty else node .block fuel
      return item :: (← blockItems fuel)
    | .blockEnd =>
      take
      return []
    | _ => refuse .grammar

def looseItems : (fuel : Nat) → Compose (List Ref)
  | 0 => refuse .grammar
  | fuel + 1 => do
    match ← next with
    | .blockEntry =>
      take
      let t ← next
      let item ← if t = .blockEntry || isBlockStop t then addEmpty else node .block fuel
      return item :: (← looseItems fuel)
    | _ => return []

def blockEntries : (fuel : Nat) → Compose (List (Ref × Ref))
  | 0 => refuse .grammar
  | fuel + 1 => do
    match ← next with
    | .key =>
      take
      let key ← if isBlockStop (← next) then addEmpty else node .entry fuel
      let value ← blockValue fuel
      return (key, value) :: (← blockEntries fuel)
    | .blockEnd =>
      take
      return []
    | _ => refuse .grammar

def blockValue : (fuel : Nat) → Compose Ref
  | 0 => refuse .grammar
  | fuel + 1 => do
    match ← next with
    | .value =>
      take
      if isBlockStop (← next) then addEmpty else node .entry fuel
    | _ => addEmpty

/-- The items of a list in a flow up to its end. A key makes an item a map of one entry. -/
def flowItems : (fuel : Nat) → (isFirst : Bool) → Compose (List Ref)
  | 0, _ => refuse .grammar
  | fuel + 1, isFirst => do
    if (← next) ≠ .flowSequenceEnd then comma isFirst
    match ← next with
    | .flowSequenceEnd =>
      take
      return []
    | .key =>
      let entries := do return [← flowKeyed .flowSequenceEnd fuel]
      let item ← compound ⟨none, none⟩ entries (.map .map) []
      return item :: (← flowItems fuel false)
    | _ =>
      let item ← node .flow fuel
      return item :: (← flowItems fuel false)

def flowEntries : (fuel : Nat) → (isFirst : Bool) → Compose (List (Ref × Ref))
  | 0, _ => refuse .grammar
  | fuel + 1, isFirst => do
    if (← next) ≠ .flowMappingEnd then comma isFirst
    match ← next with
    | .flowMappingEnd =>
      take
      return []
    | .key =>
      let entry ← flowKeyed .flowMappingEnd fuel
      return entry :: (← flowEntries fuel false)
    | _ =>
      let key ← node .flow fuel
      let value ← addEmpty
      return (key, value) :: (← flowEntries fuel false)

def flowKeyed (close : Token) : (fuel : Nat) → Compose (Ref × Ref)
  | 0 => refuse .grammar
  | fuel + 1 => do
    take
    let t ← next
    let key ← if t = .value || isFlowStop close t then addEmpty else node .flow fuel
    if (← next) = .value then
      take
      if isFlowStop close (← next) then return (key, ← addEmpty)
      return (key, ← node .flow fuel)
    else return (key, ← addEmpty)

end

/-! ## Documents -/

/-- The directives before a document. There may be one of the version, which has to be the first
one, and one of each handle. -/
def directives : (fuel : Nat) → (hasVersion : Bool) → (handles : List (String × String)) →
    Compose (List (String × String))
  | 0, _, _ => refuse .grammar
  | fuel + 1, hasVersion, handles => do
    match ← next with
    | .directive d =>
      take
      match d with
      | .version major =>
        if hasVersion || major ≠ 1 then refuse .grammar
        directives fuel true handles
      | .handle name text =>
        if (handles.lookup name).isSome then refuse .grammar
        directives fuel hasVersion ((name, text) :: handles)
      | .other => directives fuel hasVersion handles
    | _ => return handles

def explicitStart (fuel : Nat) : Compose Unit := do
  let handles ← directives fuel false []
  modify fun c => { c with handles := handles ++ Context.usualHandles }
  if (← next) = .documentStart then take else refuse .grammar

def skipEnds : (fuel : Nat) → Compose Unit
  | 0 => return ()
  | fuel + 1 => do
    if (← next) = .documentEnd then
      take
      skipEnds fuel

def content (fuel : Nat) : Compose Ref := do
  match ← next with
  | .directive _ | .documentStart | .documentEnd | .streamEnd => addEmpty
  | _ => node .block fuel

def document (fuel : Nat) : Compose (Option Ref) := do
  let n ← match ← next with
    | .streamEnd => return none
    | .directive _ | .documentStart => do
      explicitStart fuel
      content fuel
    | _ => node .block fuel
  skipEnds fuel
  if (← next) = .streamEnd then return some n
  explicitStart fuel
  refuse .reference

end Compose

def Document.read? (supply : Supply) : Except Failure (Option Document) := do
  let fuel := 3 * supply.text.length + 16
  let ((root, c), _) ← ((Compose.document fuel).run .start).run (.ofSupply supply)
  return root.map fun root => { graph := c.graph, root }

end Attest.Yaml
