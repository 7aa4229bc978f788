import FolderBackup.Yaml.Token.Stream

/-! Nodes of a document.

Tokens group into scalars, sequences and mappings. Where the tokens end in a fault, or break
the grammar, the tree is cut at that very place: everything before it is there, so a reader
that walks the tree in order meets the cut exactly where the text goes wrong. `Node ρ` names
the nodes it refers to by a `ρ`: by an anchor's name as written, by a number once names are
resolved, and not at all once references are expanded. -/
namespace FolderBackup.Yaml

/-- Why a tree is cut. -/
inductive Stop where
  | fault (fault : Fault)
  | unknownAnchor (mark : Mark)
  | recursionLimit (mark : Mark)
  | repetitionLimit
  deriving DecidableEq, Repr

/-- What may stand before a node, and where the node starts. -/
structure Properties where
  anchor : Option String
  tag : Option Octets
  mark : Mark
  /-- Whether the node stands in the place of a reference to it. -/
  referred : Bool
  deriving DecidableEq, Repr

/-- A part of a document as it is written; references are to things of type `ρ`. -/
inductive Node (ρ : Type) where
  | scalar (properties : Properties) (text : String) (style : Style)
  | sequence (properties : Properties) (items : List (Node ρ))
  | mapping (properties : Properties) (entries : List (Node ρ × Node ρ))
  | reference (target : ρ) (mark : Mark)
  | cut (stop : Stop)

namespace Node

/-- The scalar that stands for a missing node. -/
def absent {ρ : Type} (mark : Mark) : Node ρ :=
  .scalar { anchor := none, tag := none, mark, referred := false } "" .plain

end Node

/-- What a tag handle stands for. -/
abbrev Handles := List (String × Octets)

namespace Grammar

/-- What grouping goes by: the handles of the document, and the fault after the last token. -/
structure Surroundings where
  handles : Handles
  fault : Fault

/-- The tokens not grouped yet; none once the tree is cut. -/
abbrev Ahead := Option (List Token)

/-- A node as written. -/
abbrev Written := Node String

def cutAt {α : Type} (fault : Fault) (wrap : Written → α) : α × Ahead :=
  (wrap (.cut (.fault fault)), none)

/-- A cut node. -/
def cutNode (fault : Fault) : Written × Ahead := cutAt fault id

/-- Nodes of which the last is cut. -/
def cutItems (fault : Fault) : List Written × Ahead := cutAt fault ([·])

/-- Entries of which the last is cut. -/
def cutEntries (fault : Fault) : List (Written × Written) × Ahead :=
  cutAt fault fun node => [(node, node)]

/-- A node and then, unless it is cut, more of them. -/
def followed {α : Type} (first : α × Ahead) (more : List Token → List α × Ahead) : List α × Ahead :=
  match first with
  | (node, none) => ([node], none)
  | (node, some tokens) =>
    let (nodes, ahead) := more tokens
    (node :: nodes, ahead)

/-- A key and then, unless it is cut, its value. -/
def paired (key : Written × Ahead) (fault : Fault) (value : List Token → Written × Ahead) :
    (Written × Written) × Ahead :=
  match key with
  | (node, none) => ((node, .cut (.fault fault)), none)
  | (node, some tokens) =>
    let (value, ahead) := value tokens
    ((node, value), ahead)

/-- The tag that a handle and a rest stand for; none if the handle is not known. -/
def resolveTag (handles : Handles) (handle : String) (rest : Octets) : Option Octets :=
  if handle = "" then some rest
  else (handles.find? (·.1 == handle)).map (·.2 ++ rest)

/-- An anchor and a tag, in either order, if they stand here. -/
def takeProperties (around : Surroundings) (first : Token) (rest : List Token) :
    Except Fault (Properties × List Token) :=
  let mark := first.start
  let tagged (anchor : Option String) (handle : String) (suffix : Octets) (rest : List Token) :=
    match resolveTag around.handles handle suffix with
    | some tag => .ok ({ anchor, tag := some tag, mark, referred := false }, rest)
    | none => .error { cause := Fault.Cause.undefinedTagHandle, mark }
  match first.kind, rest with
  | .anchor name, { kind := .tag handle suffix, .. } :: rest =>
    tagged (some name) handle suffix rest
  | .anchor name, rest => .ok ({ anchor := some name, tag := none, mark, referred := false }, rest)
  | .tag handle suffix, { kind := .anchor name, .. } :: rest =>
    tagged (some name) handle suffix rest
  | .tag handle suffix, rest => tagged none handle suffix rest
  | _, rest => .ok ({ anchor := none, tag := none, mark, referred := false }, first :: rest)

/-- Whether a token closes or continues a block mapping rather than starting a node. -/
def endsBlockItem (kind : Token.Kind) : Bool :=
  kind == .key || kind == .value || kind == .blockEnd

/-- Whether a token ends an item between square brackets. -/
def endsFlowItem (kind : Token.Kind) : Bool :=
  kind == .flowEntry || kind == .flowSequenceEnd

/-- Whether a token ends an entry between curly brackets. -/
def endsFlowEntry (kind : Token.Kind) : Bool :=
  kind == .flowEntry || kind == .flowMappingEnd

mutual

/-- The node that starts here. A block may start here if `block`, and a sequence that is not
indented below its key if `bare`. -/
def node (around : Surroundings) : Nat → Bool → Bool → List Token → Written × Ahead
  | 0, _, _, _ => cutNode around.fault
  | _, _, _, [] => cutNode around.fault
  | fuel + 1, block, bare, first :: rest =>
    match first.kind with
    | .aliasOf name => (.reference name first.start, some rest)
    | _ => match takeProperties around first rest with
      | .error fault => cutNode fault
      | .ok (_, []) => cutNode around.fault
      | .ok (properties, token :: rest) =>
        let sequence (result : List Written × Ahead) :=
          (Node.sequence properties result.1, result.2)
        let mapping (result : List (Written × Written) × Ahead) :=
          (Node.mapping properties result.1, result.2)
        match token.kind, block, bare with
        | .blockEntry, _, true => sequence (bareItems around fuel (token :: rest))
        | .scalar text style, _, _ => (.scalar properties text style, some rest)
        | .flowSequenceStart, _, _ => sequence (flowItems around fuel true rest)
        | .flowMappingStart, _, _ => mapping (flowEntries around fuel true rest)
        | .blockSequenceStart, true, _ => sequence (blockItems around fuel rest)
        | .blockMappingStart, true, _ => mapping (blockEntries around fuel rest)
        | _, _, _ =>
          if properties.anchor.isSome || properties.tag.isSome then
            (.scalar properties "" .plain, some (token :: rest))
          else cutNode { cause := .nodeContent, mark := token.start }

/-- The node that starts here, unless a token stands here that ends the item. -/
def nodeUnless (around : Surroundings) : Nat → (Token.Kind → Bool) → Bool → Bool → Option Mark →
    List Token → Written × Ahead
  | 0, _, _, _, _, _ => cutNode around.fault
  | _, _, _, _, _, [] => cutNode around.fault
  | fuel + 1, ends, block, bare, mark, first :: rest =>
    if ends first.kind then (.absent (mark.getD first.start), some (first :: rest))
    else node around fuel block bare (first :: rest)

/-- The items of a block sequence. -/
def blockItems (around : Surroundings) : Nat → List Token → List Written × Ahead
  | 0, _ => cutItems around.fault
  | _, [] => cutItems around.fault
  | fuel + 1, token :: rest =>
    match token.kind with
    | .blockEntry =>
      followed
        (nodeUnless around fuel (fun k => k == .blockEntry || k == .blockEnd) true false
          (some token.stop) rest)
        (blockItems around fuel)
    | .blockEnd => ([], some rest)
    | _ => cutItems { cause := .sequenceEntry, mark := token.start }

/-- The items of a block sequence that is not indented below its key. -/
def bareItems (around : Surroundings) : Nat → List Token → List Written × Ahead
  | 0, _ => cutItems around.fault
  | _, [] => cutItems around.fault
  | fuel + 1, token :: rest =>
    match token.kind with
    | .blockEntry =>
      followed
        (nodeUnless around fuel (fun k => k == .blockEntry || endsBlockItem k) true false
          (some token.stop) rest)
        (bareItems around fuel)
    | _ => ([], some (token :: rest))

/-- The entries of a block mapping. -/
def blockEntries (around : Surroundings) : Nat → List Token → List (Written × Written) × Ahead
  | 0, _ => cutEntries around.fault
  | _, [] => cutEntries around.fault
  | fuel + 1, token :: rest =>
    match token.kind with
    | .key =>
      followed
        (paired (nodeUnless around fuel endsBlockItem true true (some token.stop) rest)
          around.fault (blockValue around fuel))
        (blockEntries around fuel)
    | .blockEnd => ([], some rest)
    | _ => cutEntries { cause := .mappingKey, mark := token.start }

/-- The value after a key of a block mapping. -/
def blockValue (around : Surroundings) : Nat → List Token → Written × Ahead
  | 0, _ => cutNode around.fault
  | _, [] => cutNode around.fault
  | fuel + 1, token :: rest =>
    match token.kind with
    | .value => nodeUnless around fuel endsBlockItem true true (some token.stop) rest
    | _ => (.absent token.start, some (token :: rest))

/-- The items between square brackets; each but the first follows a comma. -/
def flowItems (around : Surroundings) : Nat → Bool → List Token → List Written × Ahead
  | 0, _, _ => cutItems around.fault
  | _, _, [] => cutItems around.fault
  | fuel + 1, first, token :: rest =>
    match token.kind, first with
    | .flowSequenceEnd, _ => ([], some rest)
    | _, true => flowItem around fuel (token :: rest)
    | .flowEntry, false => flowItem around fuel rest
    | _, false => cutItems { cause := .flowSequenceEnd, mark := token.start }

/-- The item that starts here, if one does, and the ones after it. -/
def flowItem (around : Surroundings) : Nat → List Token → List Written × Ahead
  | 0, _ => cutItems around.fault
  | _, [] => cutItems around.fault
  | fuel + 1, token :: rest =>
    match token.kind with
    | .flowSequenceEnd => ([], some rest)
    | .key => followed (flowPair around fuel token.start rest) (flowItems around fuel false)
    | _ => followed (node around fuel false false (token :: rest)) (flowItems around fuel false)

/-- A single entry between square brackets, which makes a mapping of its own. -/
def flowPair (around : Surroundings) : Nat → Mark → List Token → Written × Ahead
  | 0, _, _ => cutNode around.fault
  | _, _, [] => cutNode around.fault
  | fuel + 1, mark, token :: rest =>
    let key := if token.kind == .value || endsFlowItem token.kind then
      (.absent token.stop, some rest) else node around fuel false false (token :: rest)
    let (entry, ahead) := paired key around.fault (flowValue around fuel endsFlowItem)
    let properties : Properties := { anchor := none, tag := none, mark, referred := false }
    match ahead with
    | some [] => (.mapping properties (entry :: (cutEntries around.fault).1), none)
    | ahead => (.mapping properties [entry], ahead)

/-- The value after a key between brackets. -/
def flowValue (around : Surroundings) : Nat → (Token.Kind → Bool) → List Token → Written × Ahead
  | 0, _, _ => cutNode around.fault
  | _, _, [] => cutNode around.fault
  | fuel + 1, ends, token :: rest =>
    match token.kind with
    | .value => nodeUnless around fuel ends false false none rest
    | _ => (.absent token.start, some (token :: rest))

/-- The entries between curly brackets; each but the first follows a comma. -/
def flowEntries (around : Surroundings) : Nat → Bool → List Token → List (Written × Written) × Ahead
  | 0, _, _ => cutEntries around.fault
  | _, _, [] => cutEntries around.fault
  | fuel + 1, first, token :: rest =>
    match token.kind, first with
    | .flowMappingEnd, _ => ([], some rest)
    | _, true => flowEntry around fuel (token :: rest)
    | .flowEntry, false => flowEntry around fuel rest
    | _, false => cutEntries { cause := .flowMappingEnd, mark := token.start }

/-- The entry that starts here, if one does, and the ones after it. An item without a colon
is a key without a value. -/
def flowEntry (around : Surroundings) : Nat → List Token → List (Written × Written) × Ahead
  | 0, _ => cutEntries around.fault
  | _, [] => cutEntries around.fault
  | fuel + 1, token :: rest =>
    match token.kind with
    | .flowMappingEnd => ([], some rest)
    | .key =>
      followed
        (paired
          (nodeUnless around fuel (fun k => k == .value || endsFlowEntry k) false false none rest)
          around.fault (flowValue around fuel endsFlowEntry))
        (flowEntries around fuel false)
    | _ =>
      followed
        (paired (node around fuel false false (token :: rest)) around.fault (noValue around))
        (flowEntries around fuel false)

/-- The missing value of an item without a colon. -/
def noValue (around : Surroundings) : List Token → Written × Ahead
  | [] => cutNode around.fault
  | token :: rest => (.absent token.start, some (token :: rest))

end

end Grammar

end FolderBackup.Yaml
