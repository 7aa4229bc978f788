import FolderBackup.Operation
import Mathlib.Data.List.Basic

/-! Reading a suffix.

Five kinds of steps leave a mark in the name of a backup, and everything else leaves none
(`Operation.marking?`). The marks are written in order, each after a dot, and none of them is
empty, holds a dot or is written like another one. So the suffix can be taken apart at its dots, and
tells which steps of a pipeline left their marks and in which order: reading the suffix of a
pipeline gives its markings, two pipelines have the same suffix if and only if they have the same
markings, and operations put together have their suffixes put together
(`Pipeline.extensions_readable`). -/
namespace FolderBackup

/-- The kinds of steps that leave a mark. -/
inductive Marking where
  | archive
  | bzip
  | gzip
  | encrypt
  | sign
  deriving DecidableEq, Repr

namespace Marking

def text : Marking → String
  | .archive => "tar"
  | .bzip => "bz"
  | .gzip => "gz"
  | .encrypt => "enc"
  | .sign => "sign"

def all : List Marking :=
  [.archive, .bzip, .gzip, .encrypt, .sign]

/-- The marking that is written like this. -/
def ofText? (text : String) : Option Marking :=
  all.find? fun marking => marking.text == text

/-- The markings that a suffix is made of, if it is: nothing stands before the first dot, and a
mark after each. -/
def read (suffix : String) : Option (List Marking) :=
  match suffix.toList.splitOn '.' with
  | [] :: marks => marks.mapM fun mark => ofText? (String.ofList mark)
  | _ => none

/-- The marks in order, each after a dot. -/
def write (markings : List Marking) : String :=
  String.join (markings.map fun marking => "." ++ marking.text)

@[simp] theorem ofText?_text (marking : Marking) : ofText? marking.text = some marking := by
  cases marking <;> decide

theorem dot_notMem_text (marking : Marking) : '.' ∉ marking.text.toList := by
  cases marking <;> decide

theorem text_ne_empty (marking : Marking) : marking.text ≠ "" := by
  cases marking <;> decide

theorem toList_write_cons (marking : Marking) (rest : List Marking) :
    (write (marking :: rest)).toList = '.' :: (marking.text.toList ++ (write rest).toList) := by
  unfold write
  rw [List.map_cons, String.join_cons, String.toList_append, String.toList_append,
    List.append_assoc]
  rfl

/-- Whatever stands before some marks ends at the first dot, and each mark at the next one. -/
theorem splitOn_append_write {before : List Char} (h : '.' ∉ before) (markings : List Marking) :
    (before ++ (write markings).toList).splitOn '.' =
      before :: markings.map fun marking => marking.text.toList := by
  induction markings generalizing before with
  | nil =>
    unfold write
    simp [List.splitOn_eq_singleton h]
  | cons marking rest ih =>
    rw [toList_write_cons, List.splitOn_append_cons_self_of_not_mem h,
      ih marking.dot_notMem_text, List.map_cons]

theorem mapM_ofText? (markings : List Marking) :
    (markings.map fun marking => marking.text.toList).mapM
      (fun mark => ofText? (String.ofList mark)) = some markings := by
  induction markings with
  | nil => rfl
  | cons marking rest ih => simp [ih]

/-- What is written is read back. -/
theorem read_of_write (markings : List Marking) : read (write markings) = some markings := by
  have hsplit : ([] ++ (write markings).toList).splitOn '.' =
      [] :: markings.map fun marking => marking.text.toList :=
    splitOn_append_write List.not_mem_nil markings
  rw [List.nil_append] at hsplit
  unfold read
  rw [hsplit]
  exact mapM_ofText? markings

theorem write_append (first second : List Marking) :
    write (first ++ second) = write first ++ write second := by
  unfold write
  rw [List.map_append, String.join_append]

end Marking

def Compression.Algorithm.marking : Compression.Algorithm → Marking
  | .bzip => .bzip
  | .gzip => .gzip

/-- The mark that an operation leaves, if it leaves one: pipelines, and steps that do not change
the backup, do not. -/
def Operation.marking? : Operation → Option Marking
  | .step .archive => some .archive
  | .step (.compress options) => some options.algorithm.marking
  | .step (.encrypt _) => some .encrypt
  | .step (.sign _) => some .sign
  | .step .sync => none
  | .step (.save _) => none
  | .step (.push _) => none
  | .pipeline _ _ _ => none

theorem Operation.extension_eq (operation : Operation) :
    operation.extension = operation.marking?.map Marking.text := by
  cases operation with
  | pipeline locals remotes transport => rfl
  | step single =>
    cases single with
    | compress options =>
      show some options.algorithm.extension = some options.algorithm.marking.text
      cases options.algorithm <;> rfl
    | archive | encrypt use | sign use | sync | save destFile | push upload => rfl

namespace Pipeline

/-- The marks that the local operations of a pipeline leave, in order. -/
def markings (pipeline : Pipeline) : List Marking :=
  pipeline.locals.filterMap Operation.marking?

/-- Nothing but the marks is written. -/
theorem extensions_eq_write (pipeline : Pipeline) :
    pipeline.extensions = Marking.write pipeline.markings := by
  have hlocals (locals : List Operation) :
      ((locals.map Operation.extension).filterMap id).filter (· ≠ "") =
        (locals.filterMap Operation.marking?).map Marking.text := by
    induction locals with
    | nil => rfl
    | cons operation rest ih =>
      rw [List.map_cons, Operation.extension_eq]
      cases hmark : operation.marking? with
      | none => simpa [hmark] using ih
      | some marking => simpa [hmark, marking.text_ne_empty] using ih
  unfold extensions Extension.suffix Marking.write markings
  rw [hlocals, List.map_map]
  rfl

/-- **A suffix tells which steps made it.** Two pipelines have the same suffix if and only if the
same marks are left in the same order by their local operations; reading the suffix gives these
marks; and the suffix of all operations of both, in order, is both suffixes in order. -/
theorem extensions_readable (first second : Pipeline) :
    (first.extensions = second.extensions ↔ first.markings = second.markings) ∧
    Marking.read first.extensions = some first.markings ∧
    ∀ remotes transport,
      extensions { locals := first.locals ++ second.locals, remotes, transport } =
        first.extensions ++ second.extensions := by
  have hread (pipeline : Pipeline) : Marking.read pipeline.extensions = some pipeline.markings := by
    rw [extensions_eq_write, Marking.read_of_write]
  refine ⟨⟨fun h => ?_, fun h => ?_⟩, hread first, fun remotes transport => ?_⟩
  · have hfirst := hread first
    rw [h, hread second] at hfirst
    exact (Option.some.inj hfirst).symm
  · rw [extensions_eq_write, extensions_eq_write, h]
  · rw [extensions_eq_write, extensions_eq_write, extensions_eq_write, ← Marking.write_append]
    unfold markings
    rw [List.filterMap_append]

end Pipeline

end FolderBackup
