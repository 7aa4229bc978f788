import FolderBackup.Shell.Clock
import FolderBackup.Shell.Quoting
import FolderBackup.Shell.Variables

/-! Prompts.

A prompt is a text in which a backslash and a letter stand for something about the session: the
current folder, the user, the time. Values are put into it afterwards, as if it stood in double
quotes. -/
namespace FolderBackup.Shell.Prompt

/-! ### Folders -/

/-- A folder with a tilde in the place of the user's own. -/
def shortened (session : Session) (folder : List Char) : List Char :=
  let home := (session.get "HOME").toList
  let rest := folder.drop home.length
  if 1 < home.length ∧ home.isPrefixOf folder ∧ (rest.isEmpty ∨ rest.head? = some '/') then
    '~' :: rest
  else folder

/-- The last so many names of a folder, if it has more and that is shorter; a tilde before them
stays. -/
def trimmed (count : Nat) (folder : List Char) : List Char :=
  let front := if folder.head? = some '~' then
      let name := folder.takeWhile (· ≠ '/')
      name ++ (folder.drop name.length).take 1
    else []
  let rest := folder.drop front.length
  let names := (String.ofList rest).splitOn "/"
  let kept := ("/" ++ String.intercalate "/" (names.drop (names.length - count))).toList
  if names.length ≤ count ∨ rest.length ≤ kept.length + 3 then folder
  else front ++ ['.', '.', '.'] ++ kept

/-- The folder as it is shown in full. -/
def folder (session : Session) : List Char :=
  let whole := shortened session (session.get "PWD").toList
  match integer? (session.get "PROMPT_DIRTRIM").toList with
  | some count => if 0 < count then trimmed count.toNat whole else whole
  | none => whole

/-- The last name of the folder. -/
def folderName (session : Session) : List Char :=
  let whole := (session.get "PWD").toList
  if (session.value? "HOME").isSome ∧ (session.get "HOME").toList = whole ∨
      whole.all (· == '/') then folder session
  else (whole.reverse.takeWhile (· ≠ '/')).reverse

/-! ### Escapes -/

/-- A text with a backslash before what means something in double quotes, where values are put in. -/
def guarded (session : Session) (text : List Char) : List Char :=
  if session.isOn "promptvars" then
    text.flatMap fun c => if "$\x60\"\\".contains c then ['\\', c] else [c]
  else text

/-- What a letter after a backslash stands for; none if it stands for itself. -/
def letter? (session : Session) (c : Char) : Option (List Char) :=
  let time (format : String) : Option (List Char) := some (Clock.told.bounded format.toList)
  match c with
  | 'a' => some ['\x07']
  | 'e' => some ['\x1b']
  | 'r' => some ['\r']
  | 'n' => some ['\n']
  | '\\' => some ['\\']
  | '[' | ']' => some []
  | '$' => some ['#']
  | 's' => some "bash".toList
  | 'u' => some "root".toList
  | 'h' | 'H' => some "localhost".toList
  | 'v' => some "5.2".toList
  | 'V' => some "5.2.21".toList
  | 'w' => some (guarded session (folder session))
  | 'W' => some (guarded session (folderName session))
  | 'j' => some (toString session.jobs.length).toList
  | 'l' => some "tty".toList
  | '#' | '!' => some ['1']
  | 'd' => time "%a %b %d"
  | 't' => time "%H:%M:%S"
  | 'T' => time "%I:%M:%S"
  | '@' => time "%I:%M %p"
  | 'A' => time "%H:%M"
  | _ => none

/-- A prompt with its escapes replaced. -/
def replaced (session : Session) : Nat → List Char → List Char
  | 0, _ => []
  | _, [] => []
  | fuel + 1, '\\' :: text =>
    match text with
    | [] => ['\\']
    | 'D' :: '\x7b' :: rest =>
      let format := rest.takeWhile (· ≠ '\x7d')
      let time := Clock.told.bounded (if format.isEmpty then ['%', 'X'] else format)
      guarded session time ++ replaced session fuel (rest.drop (format.length + 1))
    | c :: rest =>
      if (text.take 3).all isOctal then
        let found := Escapes.byte (valueOf 8 (text.take 3))
        (if found = '\x00' then [] else [found]) ++ replaced session fuel (text.drop 3)
      else (letter? session c).getD ['\\', c] ++ replaced session fuel rest
  | fuel + 1, c :: text => c :: replaced session fuel text

/-- A prompt with its escapes replaced. -/
def decoded (session : Session) (text : String) : List Char :=
  replaced session (text.length + 1) text.toList

end FolderBackup.Shell.Prompt
