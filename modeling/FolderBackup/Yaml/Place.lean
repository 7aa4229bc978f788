import FolderBackup.Reading.Record
import FolderBackup.Yaml.Reference

/-! Places in a document.

A place is a node together with the path that leads to it, so that a complaint can say where
it arose: the path in front of it and the line and column after it. A problem is all that can
keep a document from being read, in the order in which it is met: the tree of a faulty
document is cut where the fault is, and only who gets there meets the fault.

A scalar that is read as a text is taken as it stands, whatever it spells. An empty plain
scalar stands for an empty sequence, mapping or record. -/
namespace FolderBackup.Yaml

/-- A path and a mark of the text. -/
structure Location where
  path : List String
  mark : Mark
  deriving DecidableEq, Repr

namespace Location

def root : Location := { path := [], mark := .start }

/-- The path before a complaint; nothing for the root. -/
def start (location : Location) : String :=
  let text := if location.path.isEmpty then "." else String.intercalate "." location.path
  if text = "." then "" else text ++ ": "

end Location

/-- What keeps a document from being read. -/
inductive Problem where
  | stopped (stop : Stop)
  | moreDocuments
  | mismatch (location : Location) (mismatch : Mismatch)

namespace Problem

/-- Whether the text breaks the rules of the format itself. -/
def isFault : Problem → Bool
  | .stopped (.fault _) => true
  | _ => false

/-- The complaint without the place after it. -/
def text : Problem → String
  | .stopped (.fault fault) => fault.cause.message
  | .stopped (.unknownAnchor _) => "unknown anchor"
  | .stopped (.recursionLimit _) => "recursion limit exceeded"
  | .stopped .repetitionLimit => "repetition limit exceeded"
  | .moreDocuments => "deserializing from YAML containing more than one document is not supported"
  | .mismatch location found => location.start ++ found.message

/-- The place of a problem, if it has one. -/
def mark? : Problem → Option Mark
  | .stopped (.fault fault) => some fault.mark
  | .stopped (.unknownAnchor mark) => some mark
  | .stopped (.recursionLimit mark) => some mark
  | .mismatch location _ => some location.mark
  | _ => none

def message (problem : Problem) : String :=
  problem.text ++ (problem.mark?.map Mark.suffix).getD ""

end Problem

/-! ### What a scalar denotes -/

/-- The octet that the tags of a document's own start with. -/
def exclamation : UInt8 := 33

/-- The tags that fix what a scalar is. -/
def coreTag (name : String) : Octets := octetsOf ("tag:yaml.org,2002:" ++ name).toList

/-- What a scalar denotes, by its tag or else by its spelling. Where the spelling does not
count, the text stands for itself. -/
def denoted (tag : Option Octets) (text : String) (style : Style) : Except Mismatch Plain :=
  let spelled := if style = .plain then .ok (Plain.ofText text) else .ok .text
  let typed (found : Option Plain) (expected : String) : Except Mismatch Plain :=
    match found with
    | some plain => .ok plain
    | none => .error (.disallowed (.text text) expected)
  match tag with
  | none => spelled
  | some tag =>
    if tag = coreTag "bool" then typed ((Plain.boolean? text).map .boolean) "a boolean"
    else if tag = coreTag "int" then typed (Plain.whole? text) "an integer"
    else if tag = coreTag "float" then
      typed ((Plain.decimal? text.toList).map (.number ∘ .decimal)) "a float"
    else if tag = coreTag "null" then typed (if Plain.isNull text then some .null else none) "null"
    else if tag.head? = some exclamation then spelled
    else .ok .text

/-- What a scalar is found to be where something else was expected. -/
def Plain.found (text : String) : Plain → Found
  | .null => .null
  | .boolean value => .boolean value
  | .number value => .number value
  | .wide value => .wide value
  | .text => .text text

/-- The value of a scalar; a number too wide for a value is a mismatch. -/
def Plain.value (text : String) : Plain → Except Mismatch Value
  | .null => .ok .null
  | .boolean value => .ok (.boolean value)
  | .number value => .ok (.number value)
  | .wide value => .error (.mistyped (.wide value) "any YAML value")
  | .text => .ok (.text text)

/-! ### The value of a tree -/

/-- The tag that a value keeps: a text that starts with an exclamation mark, less the mark unless
that is all of it. -/
def keptTag : Option Octets → Option String
  | none => none
  | some tag => match tag with
    | [] => none
    | octet :: rest =>
      if octet = exclamation then
        String.fromUTF8? ⟨(if rest.isEmpty then tag else rest).toArray⟩
      else none

/-- A value under the tag it keeps. -/
def underTag (tag : Option Octets) (value : Value) : Value :=
  match keptTag tag with
  | some tag => .tagged tag value
  | none => value

/-- The part of a path for an entry with the given key. -/
def keySegment : Tree → String
  | .scalar properties text _ => if properties.referred then "?" else text
  | _ => "?"

/-- The path into a node: a reference on the way is a part without a name. -/
def pathInto (path : List String) (properties : Properties) : List String :=
  if properties.referred then path ++ [""] else path

/-- The part of a path for an item. -/
def itemSegment (index : Nat) : String :=
  "\\[" ++ toString index ++ "\\]"

def locate {α : Type} (location : Location) : Except Mismatch α → Except Problem α
  | .ok value => .ok value
  | .error mismatch => .error (.mismatch location mismatch)

mutual

/-- The value of the tree at the end of a path. -/
def valueOf (path : List String) : Tree → Except Problem Value
  | .cut stop => .error (.stopped stop)
  | .scalar properties text style =>
    let plain := match keptTag properties.tag with
      | some _ => denoted none text style
      | none => denoted properties.tag text style
    locate { path := pathInto path properties, mark := properties.mark } do
      return underTag properties.tag (← (← plain).value text)
  | .sequence properties items => do
    return underTag properties.tag (.sequence (← valueOfItems (pathInto path properties) 0 items))
  | .mapping properties entries => do
    let location := { path := pathInto path properties, mark := properties.mark }
    return underTag properties.tag (.mapping (← valueOfEntries location [] entries))

def valueOfItems (path : List String) (index : Nat) : List Tree → Except Problem (List Value)
  | [] => .ok []
  | item :: rest => do
    let item ← valueOf (path ++ [itemSegment index]) item
    let rest ← valueOfItems path (index + 1) rest
    return item :: rest

/-- The entries of a mapping. No key may be there twice. -/
def valueOfEntries (location : Location) (seen : Entries) :
    List (Tree × Tree) → Except Problem Entries
  | [] => .ok []
  | (key, value) :: rest => do
    let name ← valueOf location.path key
    if seen.hasKey name then .error (.mismatch location (.duplicateKey name))
    else
      let value ← valueOf (location.path ++ [keySegment key]) value
      let rest ← valueOfEntries location ((name, value) :: seen) rest
      return (name, value) :: rest

end

/-! ### Reading from places -/

/-- A node, the path that leads to it, and where the collection is that it stands in. -/
structure Place where
  path : List String
  outer : Location
  tree : Tree

namespace Place

/-- The place of a tree by itself. -/
def ofTree (tree : Tree) : Place :=
  { path := [], outer := .root, tree }

def location (place : Place) : Location :=
  let standing (properties : Properties) : Location :=
    { path := pathInto place.path properties, mark := properties.mark }
  match place.tree with
  | .scalar properties _ _ => standing properties
  | .sequence properties _ => standing properties
  | .mapping properties _ => standing properties
  | .cut _ => { path := place.path, mark := .start }

/-- The complaint about a mismatch at a place. -/
def reject (place : Place) (mismatch : Mismatch) : Problem :=
  .mismatch place.location mismatch

/-- Another kind of node is at a place. -/
def mistyped {α : Type} (place : Place) (expected : String) : Except Problem α :=
  match place.tree with
  | .cut stop => .error (.stopped stop)
  | .sequence _ _ => .error (place.reject (.mistyped .sequence expected))
  | .mapping _ _ => .error (place.reject (.mistyped .mapping expected))
  | .scalar properties text style => match denoted properties.tag text style with
    | .error mismatch => .error (place.reject mismatch)
    | .ok plain => .error (place.reject (.mistyped (plain.found text) expected))

def text (expected : String) (place : Place) : Except Problem String :=
  match place.tree with
  | .scalar _ text _ => .ok text
  | _ => place.mistyped expected

/-- Whether a scalar is written as a number may be. -/
def isNumeral (properties : Properties) (style : Style) : Bool :=
  style == .plain || (style == .literal && properties.tag == some (coreTag "int"))

def natural (bound : Nat) (expected : String) (place : Place) : Except Problem Nat :=
  match place.tree with
  | .scalar properties text style =>
    if isNumeral properties style && text.toList.head? != some '-' then
      match Plain.integer? text.toList with
      | some n => if n < bound then .ok n.toNat else place.mistyped expected
      | none => place.mistyped expected
    else place.mistyped expected
  | _ => place.mistyped expected

/-- An empty or null plain scalar stands for nothing. One that is tagged as null but is not
null is complained about where the collection is. -/
def optional (place : Place) : Except Problem (Option Place) :=
  match place.tree with
  | .cut stop => .error (.stopped stop)
  | .scalar { tag, .. } text .plain =>
    if tag = some (coreTag "null") then
      if Plain.isNull text then .ok none
      else .error (.mismatch place.outer (.disallowed (.text text) "null"))
    else if tag.isSome then .ok (some place)
    else if text = "" ∨ Plain.isNull text then .ok none
    else .ok (some place)
  | _ => .ok (some place)

/-- Whether a scalar stands for an empty collection. -/
def isVoid (text : String) (style : Style) : Bool :=
  text == "" && style == .plain

def items (place : Place) : Except Problem (List Place) :=
  match place.tree with
  | .sequence _ items => .ok (items.mapIdx fun index tree =>
      { path := place.location.path ++ [itemSegment index], outer := place.location, tree })
  | .scalar _ text style => if isVoid text style then .ok [] else place.mistyped "a sequence"
  | _ => place.mistyped "a sequence"

def entries (expected : String) (place : Place) : Except Problem (List (Place × Place)) :=
  match place.tree with
  | .mapping _ entries => .ok (entries.map fun (key, value) =>
      ({ path := place.location.path, outer := place.location, tree := key },
        { path := place.location.path ++ [keySegment key], outer := place.location
          tree := value }))
  | .scalar _ text style => if isVoid text style then .ok [] else place.mistyped expected
  | _ => place.mistyped expected

/-- The entries of a mapping as they stand. -/
def mapping (place : Place) : Except Problem Entries :=
  match place.tree with
  | .mapping _ entries => valueOfEntries place.location [] entries
  | .scalar _ text style => if isVoid text style then .ok [] else place.mistyped "a YAML mapping"
  | _ => place.mistyped "a YAML mapping"

end Place

instance : Source Place Problem where
  reject := Place.reject
  text := Place.text
  natural := Place.natural
  optional := Place.optional
  items := Place.items
  entries := Place.entries

/-- What a reader finds in a text that holds one document. -/
def readText {α : Type} (read : Place → Except Problem α) (text : String) : Except Problem α := do
  let document := Document.ofText text
  let value ← read (.ofTree document.root.tree)
  match document.ending with
  | .finished => .ok value
  | .another => .error .moreDocuments
  | .fault fault => .error (.stopped (.fault fault))

end FolderBackup.Yaml
