import FolderBackup.Shell.Session

/-! Variables that name others.

A variable can name another one, or what stands in brackets after its name. Whatever is done with it is
done with what it names. -/
namespace FolderBackup.Shell

/-- What a name leads to. -/
inductive Lead where
  | variable (name : String)
  | element (name : String) (subscript : Raw)
  /-- The variable outside of all functions, since names inside of them lead around in a circle. -/
  | outermost (name : String)
  /-- Nothing, since names lead around in a circle. -/
  | nowhere
  deriving DecidableEq, Repr

namespace Lead

/-- Whether names lead around in a circle. -/
def isCircle : Lead → Bool
  | .outermost _ => true
  | .nowhere => true
  | _ => false

/-- Whether a text can be what a variable names. -/
def isTarget (text : String) : Bool :=
  match Assignment.reference? text.toList with
  | some (_, _, []) => true
  | _ => false

/-- Whether a text names a variable, or something in brackets after its name. -/
def names (name text : String) : Bool :=
  match Assignment.reference? text.toList with
  | some (other, _, []) => other == name
  | _ => false

end Lead

namespace Session

/-- What a name leads to from another one on. -/
def leadFrom (session : Session) (start : String) : Nat → String → Lead
  | 0, _ => .nowhere
  | fuel + 1, name =>
    match session.held? name with
    | some { refers := true, value := .text other, .. } =>
      match Assignment.reference? other.toList with
      | some (other, some subscript, []) => .element other subscript
      | _ =>
        if other = "" then .variable name
        else if other = start ∨ other = name then
          if (session.local? other).isSome then .outermost other else .nowhere
        else session.leadFrom start fuel other
    | _ => .variable name

/-- What a name leads to. -/
def lead (session : Session) (name : String) : Lead := session.leadFrom name 9 name

/-- The name that a name stands for. -/
def resolved (session : Session) (name : String) : String :=
  match session.lead name with
  | .variable other => other
  | .element other subscript => other ++ "[" ++ String.ofList subscript ++ "]"
  | .outermost other => other
  | .nowhere => name

/-- A name and what stands in brackets after it, where the name may lead to brackets of its own. -/
def ledTo (session : Session) (name : String) (subscript : Option Raw) : String × Option Raw :=
  match session.lead name, subscript with
  | .element name raw, none => (name, some raw)
  | _, subscript => (name, subscript)

/-- The variable that a name leads to. -/
def meant? (session : Session) (name : String) : Option Variable :=
  match session.lead name with
  | .variable other => session.held? other
  | .outermost other => session.global? other
  | _ => none

/-- The text of a variable that is only looked at; empty if it has none. -/
def get (session : Session) (name : String) : String :=
  ((session.meant? name).bind Variable.text?).getD ""

end Session

end FolderBackup.Shell
