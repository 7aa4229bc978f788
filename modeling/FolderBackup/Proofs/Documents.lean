import FolderBackup.Proofs.Outcome
import FolderBackup.Settings.Loading

/-! Documents without references.

References make the tree of a document depend on how often and how deep they are followed. A
document that has none, and nests no deeper than is allowed, is its own tree, whatever anchors it
sets (`Yaml.readText_of_plainTree`). That tree is found by going through the document once, and so
are the settings of a file that holds one (`Settings.load_of_plainTree`). -/
namespace FolderBackup.Yaml

mutual

/-- The node as a tree, if there is no reference in it and it nests no deeper than `depth`. -/
def Node.plain? {ρ : Type} (depth : Nat) (node : Node ρ) : Option Tree :=
  match node, depth with
  | .scalar properties text style, _ => some (.scalar properties text style)
  | .sequence properties items, depth + 1 =>
    (Node.plainItems? depth items).map (.sequence properties)
  | .mapping properties entries, depth + 1 =>
    (Node.plainEntries? depth entries).map (.mapping properties)
  | _, _ => none

def Node.plainItems? {ρ : Type} (depth : Nat) (items : List (Node ρ)) : Option (List Tree) :=
  match items with
  | [] => some []
  | item :: rest => do
    let item ← Node.plain? depth item
    let rest ← Node.plainItems? depth rest
    return item :: rest

def Node.plainEntries? {ρ : Type} (depth : Nat) (entries : List (Node ρ × Node ρ)) :
    Option (List (Tree × Tree)) :=
  match entries with
  | [] => some []
  | (key, value) :: rest => do
    let key ← Node.plain? depth key
    let value ← Node.plain? depth value
    let rest ← Node.plainEntries? depth rest
    return (key, value) :: rest

end

mutual

/-- Expanding references leaves a node without any as it is. -/
theorem expandNode_of_plain (anchors : Anchors) {depth : Nat} (node : Node Nat) {tree : Tree}
    (h : node.plain? depth = some tree) {state : Expansion} (hstate : state.stopped = false) :
    expandNode anchors depth node state = (tree, state) := by
  cases node with
  | scalar properties text style =>
    rw [Node.plain?] at h
    rw [expandNode]
    cases h
    rfl
  | sequence properties items =>
    cases depth with
    | zero => cases h
    | succ depth =>
      rw [Node.plain?] at h
      obtain ⟨trees, htrees, rfl⟩ := Option.map_eq_some_iff.mp h
      rw [expandNode, expandSequence, expandItems_of_plain anchors items htrees hstate]
  | mapping properties entries =>
    cases depth with
    | zero => cases h
    | succ depth =>
      rw [Node.plain?] at h
      obtain ⟨trees, htrees, rfl⟩ := Option.map_eq_some_iff.mp h
      rw [expandNode, expandMapping, expandEntries_of_plain anchors entries htrees hstate]
  | reference number mark => cases depth <;> cases h
  | cut stop => cases depth <;> cases h

theorem expandItems_of_plain (anchors : Anchors) {depth : Nat} (items : List (Node Nat))
    {trees : List Tree} (h : Node.plainItems? depth items = some trees) {state : Expansion}
    (hstate : state.stopped = false) :
    expandItems anchors depth items state = (trees, state) := by
  cases items with
  | nil =>
    cases h
    rw [expandItems]
  | cons item rest =>
    rw [Node.plainItems?] at h
    obtain ⟨tree, htree, h⟩ := Option.bind_eq_some_iff.mp h
    obtain ⟨more, hmore, h⟩ := Option.bind_eq_some_iff.mp h
    cases h
    rw [expandItems, expandNode_of_plain anchors item htree hstate]
    simp only [hstate, expandItems_of_plain anchors rest hmore hstate]
    rfl

theorem expandEntries_of_plain (anchors : Anchors) {depth : Nat}
    (entries : List (Node Nat × Node Nat)) {trees : List (Tree × Tree)}
    (h : Node.plainEntries? depth entries = some trees) {state : Expansion}
    (hstate : state.stopped = false) :
    expandEntries anchors depth entries state = (trees, state) := by
  cases entries with
  | nil =>
    cases h
    rw [expandEntries]
  | cons entry rest =>
    obtain ⟨key, value⟩ := entry
    rw [Node.plainEntries?] at h
    obtain ⟨keyTree, hkey, h⟩ := Option.bind_eq_some_iff.mp h
    obtain ⟨valueTree, hvalue, h⟩ := Option.bind_eq_some_iff.mp h
    obtain ⟨more, hmore, h⟩ := Option.bind_eq_some_iff.mp h
    cases h
    rw [expandEntries, expandNode_of_plain anchors key hkey hstate]
    simp only [hstate, expandNode_of_plain anchors value hvalue hstate,
      expandEntries_of_plain anchors rest hmore hstate]
    rfl

end

/-- The tree of some characters that hold one document without references. -/
def plainTree? (chars : List Char) : Option Tree :=
  if chars.all isAdmitted then
    let document := Document.ofTokens (Tokens.scan (2 * chars.length + 2) (.start chars))
    if document.ending = .finished then (numberNode document.root .none).1.plain? maxDepth
    else none
  else none

/-- What a reader finds in a text without references it finds in the tree of its characters. -/
theorem readText_of_plainTree {α : Type} (read : Place → Except Problem α) {text : String}
    {tree : Tree} (h : plainTree? text.toList = some tree) :
    readText read text = read (.ofTree tree) := by
  unfold plainTree? at h
  split at h
  · next hadmitted =>
    simp only at h
    split at h
    · next hending =>
      have hnone : text.toList.find? (!isAdmitted ·) = none := by
        simpa using hadmitted
      have hdocument : Document.ofText text = Document.ofTokens
          (Tokens.scan (2 * text.toList.length + 2) (.start text.toList)) := by
        simp only [Document.ofText, Tokens.ofText, hnone]
      have htree : (Document.ofText text).root.tree = tree := by
        rw [hdocument]
        exact congrArg Prod.fst (expandNode_of_plain _ _ h rfl)
      rw [← hdocument] at hending
      simp only [readText, htree, hending]
      cases read (.ofTree tree) <;> rfl
    · cases h
  · cases h

end FolderBackup.Yaml

namespace FolderBackup
open Yaml

/-- The settings that a tree holds. -/
def Settings.ofTree (tree : Tree) : Except Settings.Fault Settings :=
  match Settings.read (.ofTree tree) with
  | .error found => .error (.problem found)
  | .ok settings => match settings.violations with
    | [] => .ok settings
    | found => .error (.violations found)

theorem Settings.ofText_of_plainTree {text : String} {tree : Tree}
    (h : plainTree? text.toList = some tree) : Settings.ofText text = Settings.ofTree tree := by
  rw [Settings.ofText, readText_of_plainTree Settings.read h]
  rfl

/-- The settings in a file are those of the tree of its characters. -/
theorem Settings.load_of_plainTree {world : World} {path : String} {place : List String}
    {content : List UInt8} {tree : Tree} (hreach : world.reach path = .ok place)
    (hfile : world.tree.get? place = some (.file content))
    (htree : plainTree? (Text.charsOfBytes content.length content) = some tree) :
    load world path =
      underHeading (loadHeading path) ((Settings.ofTree tree).mapError Fault.toFailure) := by
  have htext : textUnder world path = .ok (Text.ofBytes content) := by
    rw [textUnder, hreach]
    simp only [hfile]
  have hchars : (Text.ofBytes content).toList = Text.charsOfBytes content.length content :=
    String.toList_ofList
  rw [load, htext, ← ofText_of_plainTree (hchars ▸ htree)]
  rfl

/-- The text of settings with two jobs, both at once. -/
def Settings.keeping : String :=
  String.intercalate "\n" [
    "connection:",
    "  nas:",
    "    host: nas",
    "    remote_user: backup",
    "    dest_folder: /data",
    "execution:",
    "  parallel_jobs: 2",
    "pipelines:",
    "  keep:",
    "    type: pipeline",
    "    connection: ssh",
    "    local:",
    "    - operation: sync",
    "    remote:",
    "    - operation: save backup",
    "      dest_file: /data/{dest_filename}",
    "folders:",
    "- folders: documents",
    "  connection: nas",
    "  pipeline: keep",
    "- folders: pictures",
    "  connection: nas",
    "  pipeline: keep"]

/-- The bytes of these settings. -/
def Settings.keepingContent : List UInt8 :=
  keeping.toList.map fun c => c.toNat.toUInt8

/-- A usual world with these settings in the current folder. -/
def World.keeping : World :=
  { World.usual with
    tree := (scratchFolder ++ ["s"], .file Settings.keepingContent) :: World.usual.tree }

theorem World.reach_keeping : World.keeping.reach "s" = .ok (scratchFolder ++ ["s"]) := by
  exact eq_ok_of_toOption (by decide +kernel)

end FolderBackup
