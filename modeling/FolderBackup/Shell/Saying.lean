import FolderBackup.Shell.Assigning
import FolderBackup.Shell.Expansion
import FolderBackup.Shell.Printing
import FolderBackup.Shell.Usage

/-! Writing texts.

A script writes words one after the other, or as a format says. -/
namespace FolderBackup.Shell.Saying

/-- How words are written. -/
structure Manner where
  endsLine : Bool
  /-- Whether escapes are replaced. -/
  escapes : Bool

/-- The options at the start of some words, and the words after them. -/
def options (manner : Manner) : List String → Manner × List String
  | [] => (manner, [])
  | word :: rest =>
    match word.toList with
    | '-' :: c :: letters =>
      if (c :: letters).all fun c => c == 'n' || c == 'e' || c == 'E' then
        options ((c :: letters).foldl (fun manner c =>
          if c = 'n' then { manner with endsLine := false }
          else { manner with escapes := c == 'e' }) manner) rest
      else (manner, word :: rest)
    | _ => (manner, word :: rest)

/-- What `echo` writes for some words. -/
def echoed (escapes : Bool) (words : List String) : String :=
  let (manner, words) := options { endsLine := true, escapes } words
  let text := String.intercalate " " words
  let ending := if manner.endsLine then "\n" else ""
  if manner.escapes then
    let replaced := Escapes.replaced .echo text.toList
    String.ofList replaced.text ++ if replaced.ended then "" else ending
  else text ++ ending

/-- Writes words. -/
def echo (arguments : List String) : Action Nat := do
  let escapes := (← get).isOn "xpg_echo"
  return if ← Action.write "echo" (echoed escapes arguments) then 0 else 1

/-- Writes what a format makes of the arguments, or gives it to a variable. -/
def printf (means : Expansion.Means) (arguments : List String) : Action Nat :=
  Usage.taking "printf" "" "v" arguments fun found => do
    let target? := (found.value? 'v').map fun name => (name, Assignment.reference? name.toList)
    match target?, found.rest with
    | some (name, none), _ =>
      Action.complainAs "printf" ("\x60" ++ name ++ "': not a valid identifier")
      return 2
    | _, [] =>
      Usage.tell "printf"
      return 2
    | target?, format :: texts =>
      let (isWhole, written) ← Printing.printed format texts
      let isKept ← match target? with
        | some (_, some (name, subscript, _)) =>
          Assigning.giveTo (Expansion.brackets means) name subscript false written
        | _ => Action.write "printf" written
      return if isWhole && isKept then 0 else 1

end FolderBackup.Shell.Saying
