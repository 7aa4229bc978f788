import FolderBackup.Reading.Mismatch

/-! Where typed things are read from.

A source is a tree that can be asked for a text, a number, the items of a sequence or the
entries of a mapping, and that says where a mismatch is. The trees are the values of an
operation's configuration, which know no places, and the nodes of a document, which do. -/
namespace FolderBackup

/-- Trees `σ` to read typed things from; `ε` is what a reader complains with. -/
class Source (σ : Type) (ε : outParam Type) where
  /-- The complaint about a mismatch at a tree. -/
  reject : σ → Mismatch → ε
  /-- The text a tree holds; the first argument names what is expected. -/
  text : String → σ → Except ε String
  /-- The natural number a tree holds. It must be below the bound of the type named. -/
  natural : Nat → String → σ → Except ε Nat
  /-- The tree itself, unless it stands for nothing. -/
  optional : σ → Except ε (Option σ)
  /-- The items of a sequence. -/
  items : σ → Except ε (List σ)
  /-- The entries of a mapping; the first argument names what is expected. -/
  entries : String → σ → Except ε (List (σ × σ))

namespace Source
variable {σ ε : Type} [Source σ ε]

/-- A text where nothing more special is expected. -/
def string (tree : σ) : Except ε String :=
  text "a string" tree

/-- The widest count there is. -/
def count (tree : σ) : Except ε Nat :=
  natural UInt64.size "usize" tree

/-- Nothing, or something that the reader accepts. -/
def nullable {α : Type} (read : σ → Except ε α) (tree : σ) : Except ε (Option α) := do
  match ← optional tree with
  | none => pure none
  | some tree => some <$> read tree

/-- The items of a sequence, each of which the reader accepts. -/
def list {α : Type} (read : σ → Except ε α) (tree : σ) : Except ε (List α) := do
  (← items tree).mapM read

end Source

end FolderBackup
