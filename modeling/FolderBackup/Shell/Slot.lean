import FolderBackup.Shell.Variables

/-! Slots of variables.

A text is kept in a variable as a whole, under a number or under a name. A slot says which. -/
namespace FolderBackup.Shell

/-- Where in a variable a text is kept. -/
inductive Slot where
  | whole
  | index (n : Nat)
  | key (name : String)
  deriving DecidableEq, Repr

namespace Slot

/-- Whether what stands between brackets is a sign for every slot. -/
def isEvery (subscript : Raw) : Bool := subscript == ['@'] || subscript == ['*']

/-- The key that a slot is listed under. -/
def shown : Slot → String
  | .whole => "0"
  | .index n => toString n
  | .key name => name

end Slot

/-- The text in a slot. -/
def Value.textAt? (slot : Slot) : Value → Option String
  | .unset => none
  | .text single => if slot = .whole ∨ slot = .index 0 then some single else none
  | .list entries => match slot with
    | .whole => entries.lookup 0
    | .index n => entries.lookup n
    | .key _ => none
  | .table entries => entries.lookup slot.shown

/-- The number after the last one that a value has a text under. -/
def Value.finish : Value → Nat
  | .unset => 0
  | .text _ => 1
  | .list entries => Value.listEnd entries
  | .table entries => entries.length

namespace Session

/-- The slot under a number; numbers below zero count from the end. -/
def slot? (session : Session) (name : String) (n : Int) : Option Slot :=
  if 0 ≤ n then some (.index n.toNat)
  else
    let n := n + ((session.value? name).getD .unset).finish
    if 0 ≤ n then some (.index n.toNat) else none

/-- Whether a variable has its texts under names. -/
def isTable (session : Session) (name : String) : Bool :=
  (session.value? name).any Value.isTable ||
    ((session.meant? name).map (·.value)).any Value.isTable

end Session

namespace Action

/-- The text in a slot of a variable. -/
def textAt? (name : String) (slot : Slot) : Action (Option String) := do
  return (← value? name).bind (Value.textAt? slot)

/-- Puts a text into a slot of a variable; whether it could be put. -/
def putAt (name : String) (slot : Slot) (text : String) : Action Bool :=
  match slot with
  | .whole => assign name text
  | .index n => assignIndex name n text
  | .key key => assignName name key text

end Action

end FolderBackup.Shell
