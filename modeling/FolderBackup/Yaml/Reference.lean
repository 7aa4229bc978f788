import FolderBackup.Yaml.Document

/-! References to anchored nodes.

Names of anchors are numbered: an anchor's number is how many distinct names were defined
before it. A number denotes the last node that received it, so a reference can denote a node
that comes after it. Expanding replaces every reference by the node it denotes. Collections
nest at most 128 deep, which also ends a node that refers to itself, and there are at most a
hundred references followed for every part of the document. -/
namespace FolderBackup.Yaml

/-! ### Numbering -/

/-- The anchors met so far. Positions count the nodes met. -/
structure Anchors where
  numbers : List (String × Nat)
  nodes : List (Nat × Nat × Node Nat)
  position : Nat
  parts : Nat
  stopped : Bool

namespace Anchors

def none : Anchors :=
  { numbers := [], nodes := [], position := 0, parts := 0, stopped := false }

/-- At one more node, which starts with the given number of parts. -/
def visit (anchors : Anchors) (parts : Nat) : Anchors :=
  { anchors with position := anchors.position + 1, parts := anchors.parts + parts }

/-- With the name numbered, if there is one. -/
def define (anchors : Anchors) : Option String → Anchors
  | .none => anchors
  | some name => { anchors with
      numbers := (name, anchors.numbers.length) :: anchors.numbers.filter (·.1 ≠ name) }

/-- With the node recorded under the number its anchor got. -/
def record (anchors : Anchors) (number : Option Nat) (position : Nat) (node : Node Nat) : Anchors :=
  match number with
  | .none => anchors
  | some number => { anchors with nodes := (number, position, node) :: anchors.nodes }

/-- The node that a number denotes: of those that received it the last one. -/
def denoted (anchors : Anchors) (number : Nat) : Option (Node Nat) :=
  let candidates := anchors.nodes.filter (·.1 == number)
  (candidates.foldl (fun best candidate => match best with
    | some (position, node) =>
      if position < candidate.2.1 then some candidate.2 else some (position, node)
    | .none => some candidate.2) (.none : Option (Nat × Node Nat))).map Prod.snd

end Anchors

mutual

/-- The node with its references numbered. An unknown name cuts the tree. -/
def numberNode : Node String → Anchors → Node Nat × Anchors
  | .scalar properties text style, anchors =>
    let node : Node Nat := .scalar properties text style
    let number := properties.anchor.map fun _ => anchors.numbers.length
    let met := (anchors.visit 1).define properties.anchor
    (node, met.record number anchors.position node)
  | .sequence properties items, anchors =>
    let number := properties.anchor.map fun _ => anchors.numbers.length
    let (items, after) := numberItems items ((anchors.visit 1).define properties.anchor)
    let node : Node Nat := .sequence properties items
    (node, (closed after).record number anchors.position node)
  | .mapping properties entries, anchors =>
    let number := properties.anchor.map fun _ => anchors.numbers.length
    let (entries, after) := numberEntries entries ((anchors.visit 1).define properties.anchor)
    let node : Node Nat := .mapping properties entries
    (node, (closed after).record number anchors.position node)
  | .reference name mark, anchors =>
    match anchors.numbers.find? (·.1 == name) with
    | some (_, number) => (.reference number mark, anchors.visit 1)
    | .none => (.cut (.unknownAnchor mark), { anchors with stopped := true })
  | .cut stop, anchors => (.cut stop, { anchors with stopped := true })
where
  closed (anchors : Anchors) : Anchors :=
    if anchors.stopped then anchors else { anchors with parts := anchors.parts + 1 }

def numberItems : List (Node String) → Anchors → List (Node Nat) × Anchors
  | [], anchors => ([], anchors)
  | item :: rest, anchors =>
    let (item, anchors) := numberNode item anchors
    if anchors.stopped then ([item], anchors)
    else
      let (rest, anchors) := numberItems rest anchors
      (item :: rest, anchors)

def numberEntries :
    List (Node String × Node String) → Anchors → List (Node Nat × Node Nat) × Anchors
  | [], anchors => ([], anchors)
  | (key, value) :: rest, anchors =>
    let (key, anchors) := numberNode key anchors
    if anchors.stopped then ([(key, key)], anchors)
    else
      let (value, anchors) := numberNode value anchors
      if anchors.stopped then ([(key, value)], anchors)
      else
        let (rest, anchors) := numberEntries rest anchors
        ((key, value) :: rest, anchors)

end

/-! ### Expanding -/

/-- A tree without references. -/
abbrev Tree := Node Empty

/-- The deepest nesting of collections. -/
def maxDepth : Nat := 128

/-- The references followed so far, and whether the tree is cut already. -/
structure Expansion where
  followed : Nat
  stopped : Bool

/-- What stands before a node that is put in the place of a reference. -/
def referred (properties : Properties) : Properties :=
  { properties with referred := true }

/-- A collection that is cut before its first item. -/
def tooDeep (properties : Properties) : Tree :=
  .cut (.recursionLimit properties.mark)

mutual

/-- The node with its references expanded, `depth` more collections deep. -/
def expandNode (anchors : Anchors) (depth : Nat) (node : Node Nat) (state : Expansion) :
    Tree × Expansion :=
  match node with
  | .scalar properties text style => (.scalar properties text style, state)
  | .cut stop => (.cut stop, { state with stopped := true })
  | .sequence properties items => expandSequence anchors depth properties items state
  | .mapping properties entries => expandMapping anchors depth properties entries state
  | .reference number mark =>
    let state := { state with followed := state.followed + 1 }
    if 100 * anchors.parts < state.followed then
      (.cut .repetitionLimit, { state with stopped := true })
    else match anchors.denoted number, depth with
      | some (.scalar properties text style), _ => (.scalar (referred properties) text style, state)
      | some (.sequence properties items), depth + 1 =>
        let (items, state) := expandItems anchors depth items state
        (.sequence (referred properties) items, state)
      | some (.mapping properties entries), depth + 1 =>
        let (entries, state) := expandEntries anchors depth entries state
        (.mapping (referred properties) entries, state)
      | some (.sequence properties _), 0 =>
        (.sequence (referred properties) [tooDeep properties], { state with stopped := true })
      | some (.mapping properties _), 0 =>
        (.mapping (referred properties) [(tooDeep properties, tooDeep properties)],
          { state with stopped := true })
      -- only scalars and collections are recorded
      | _, _ => (.cut (.unknownAnchor mark), { state with stopped := true })
termination_by (depth, sizeOf node, 1)

def expandSequence (anchors : Anchors) (depth : Nat) (properties : Properties)
    (items : List (Node Nat)) (state : Expansion) : Tree × Expansion :=
  match depth with
  | 0 => (.sequence properties [tooDeep properties], { state with stopped := true })
  | depth + 1 =>
    let (items, state) := expandItems anchors depth items state
    (.sequence properties items, state)
termination_by (depth, sizeOf items, 0)

def expandMapping (anchors : Anchors) (depth : Nat) (properties : Properties)
    (entries : List (Node Nat × Node Nat)) (state : Expansion) : Tree × Expansion :=
  match depth with
  | 0 =>
    (.mapping properties [(tooDeep properties, tooDeep properties)],
      { state with stopped := true })
  | depth + 1 =>
    let (entries, state) := expandEntries anchors depth entries state
    (.mapping properties entries, state)
termination_by (depth, sizeOf entries, 0)

def expandItems (anchors : Anchors) (depth : Nat) (items : List (Node Nat)) (state : Expansion) :
    List Tree × Expansion :=
  match items with
  | [] => ([], state)
  | item :: rest =>
    let (item, state) := expandNode anchors depth item state
    if state.stopped then ([item], state)
    else
      let (rest, state) := expandItems anchors depth rest state
      (item :: rest, state)
termination_by (depth, sizeOf items, 0)

def expandEntries (anchors : Anchors) (depth : Nat) (entries : List (Node Nat × Node Nat))
    (state : Expansion) : List (Tree × Tree) × Expansion :=
  match entries with
  | [] => ([], state)
  | (key, value) :: rest =>
    let (key, state) := expandNode anchors depth key state
    if state.stopped then ([(key, key)], state)
    else
      let (value, state) := expandNode anchors depth value state
      if state.stopped then ([(key, value)], state)
      else
        let (rest, state) := expandEntries anchors depth rest state
        ((key, value) :: rest, state)
termination_by (depth, sizeOf entries, 0)

end

/-- The tree of a document's root, without references. -/
def Node.tree (root : Node String) : Tree :=
  let (node, anchors) := numberNode root .none
  (expandNode anchors maxDepth node { followed := 0, stopped := false }).1

end FolderBackup.Yaml
