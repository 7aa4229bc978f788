import FolderBackup.Yaml.Number

/-! Values of a document.

A value is null, a boolean, a number, a text, a sequence, a mapping or a tagged value.
Mappings keep the order of their entries. Removing an entry moves the last one into its
place, so the order after a removal differs from the order before it; which entries remain
does not depend on that. -/
namespace FolderBackup.Yaml

/-- What a document stands for. -/
inductive Value where
  | null
  | boolean (value : Bool)
  | number (value : Number)
  | text (value : String)
  | sequence (items : List Value)
  | mapping (entries : List (Value × Value))
  | tagged (tag : String) (value : Value)
  deriving Inhabited, Repr

/-- The entries of a mapping, in order. -/
abbrev Entries := List (Value × Value)

namespace Value

/-- The value under any tags. -/
def untagged : Value → Value
  | .tagged _ value => value.untagged
  | value => value

/-- The text a value holds, under any tags. -/
def text? (value : Value) : Option String :=
  match value.untagged with
  | .text s => some s
  | _ => none

/-- Whether a key is the given name. -/
def isName (name : String) : Value → Bool
  | .text s => s == name
  | _ => false

mutual

/-- How many nodes a value has. -/
def weight : Value → Nat
  | .sequence items => weightOfItems items + 1
  | .mapping entries => weightOfEntries entries + 1
  | .tagged _ value => value.weight + 1
  | _ => 1

def weightOfItems : List Value → Nat
  | [] => 0
  | value :: rest => value.weight + weightOfItems rest

def weightOfEntries : List (Value × Value) → Nat
  | [] => 0
  | (key, value) :: rest => key.weight + value.weight + weightOfEntries rest

end

/-- Whether two numbers are the same key; the two zeros are. -/
def sameNumber : Number → Number → Bool
  | .integer a, .integer b => a == b
  | .decimal (.finite _ 0 _), .decimal (.finite _ 0 _) => true
  | .decimal a, .decimal b => a == b
  | _, _ => false

mutual

/-- Whether two values are the same key: mappings compare without regard to order, and not a
number is the same as itself. -/
def same : Value → Value → Bool
  | .null, .null => true
  | .boolean a, .boolean b => a == b
  | .number a, .number b => sameNumber a b
  | .text a, .text b => a == b
  | .sequence xs, .sequence ys => sameItems xs ys
  | .mapping xs, .mapping ys => xs.length == ys.length && sameEntries xs ys
  | .tagged a x, .tagged b y => a == b && same x y
  | _, _ => false

def sameItems : List Value → List Value → Bool
  | [], [] => true
  | x :: xs, y :: ys => same x y && sameItems xs ys
  | _, _ => false

def sameEntries : List (Value × Value) → List (Value × Value) → Bool
  | [], _ => true
  | (key, value) :: rest, others =>
    others.any (fun other => same key other.1 && same value other.2) && sameEntries rest others

end

end Value

namespace Entries

/-- The value under a name. -/
def get? (entries : Entries) (name : String) : Option Value :=
  (entries.find? fun entry => entry.1.isName name).map Prod.snd

/-- The entries without the one under a name; the last entry takes its place. -/
def erase (name : String) : Entries → Entries
  | [] => []
  | entry :: rest =>
    if entry.1.isName name then
      match rest.getLast? with
      | none => []
      | some last => last :: rest.dropLast
    else entry :: erase name rest

/-- Whether an entry has the given key. -/
def hasKey (entries : Entries) (key : Value) : Bool :=
  entries.any fun entry => entry.1.same key

/-- How many nodes the entries have. -/
abbrev weight (entries : Entries) : Nat :=
  Value.weightOfEntries entries

/-! ### Weights -/

theorem weight_append (entries others : Entries) :
    weight (entries ++ others) = entries.weight + others.weight := by
  induction entries with
  | nil => simp [weight, Value.weightOfEntries]
  | cons entry rest ih =>
    obtain ⟨key, value⟩ := entry
    simp only [weight, List.cons_append, Value.weightOfEntries] at ih ⊢
    omega

theorem weight_le_of_mem {entries : Entries} {key value : Value}
    (h : (key, value) ∈ entries) : key.weight + value.weight ≤ entries.weight := by
  induction entries with
  | nil => simp at h
  | cons entry rest ih =>
    obtain ⟨other, old⟩ := entry
    rcases List.mem_cons.mp h with h | h
    · simp only [Prod.mk.injEq] at h
      obtain ⟨rfl, rfl⟩ := h
      simp only [weight, Value.weightOfEntries]
      omega
    · have := ih h
      simp only [weight, Value.weightOfEntries] at this ⊢
      omega

/-- Removing an entry adds nothing. -/
theorem weight_erase_le (entries : Entries) (name : String) :
    (entries.erase name).weight ≤ entries.weight := by
  induction entries with
  | nil => simp [erase]
  | cons entry rest ih =>
    obtain ⟨key, value⟩ := entry
    unfold erase
    split
    · cases h : rest.getLast? with
      | none => simp [weight, Value.weightOfEntries]
      | some last =>
        obtain ⟨others, rfl⟩ := List.getLast?_eq_some_iff.mp h
        obtain ⟨lastKey, lastValue⟩ := last
        have := weight_append others [(lastKey, lastValue)]
        simp only [weight, Value.weightOfEntries, List.dropLast_concat] at this ⊢
        omega
    · simp only [weight, Value.weightOfEntries] at ih ⊢
      omega

end Entries

namespace Value

theorem weight_pos (value : Value) : 0 < value.weight := by
  cases value <;> simp [weight]

theorem weight_untagged_le (value : Value) : value.untagged.weight ≤ value.weight := by
  match value with
  | .tagged tag inner =>
    have := weight_untagged_le inner
    simp only [untagged, weight]
    omega
  | .null | .boolean _ | .number _ | .text _ | .sequence _ | .mapping _ => simp [untagged]

end Value

end FolderBackup.Yaml
