import FolderBackup.Shell.Pattern
import FolderBackup.Shell.Session

/-! Fields and paths.

A word whose values are put in is a list of pieces. It falls apart into fields at the separators
that values brought in. A field that is a pattern stands for the paths it matches, in order, or for
itself if it matches none. -/
namespace FolderBackup.Shell

/-- A piece of a word. -/
inductive Piece where
  /-- A character that stands in the text, in no quotes. -/
  | bare (c : Char)
  | quoted (c : Char)
  /-- A character of a value that stands in no quotes. -/
  | value (c : Char)
  /-- Quotes around nothing. -/
  | void
  /-- The end of a field. -/
  | cut
  deriving DecidableEq, Repr

namespace Piece

/-- The characters that some pieces stand for. -/
def chars (pieces : List Piece) : List Char :=
  pieces.filterMap fun
    | .bare c => some c
    | .quoted c => some c
    | .value c => some c
    | .void => none
    | .cut => some ' '

/-- The text that some pieces stand for. -/
def text (pieces : List Piece) : String := String.ofList (chars pieces)

/-- The pattern that some pieces are. -/
def pattern (pieces : List Piece) : Pattern :=
  pieces.flatMap fun
    | .bare c => [c]
    | .quoted c => ['\\', c]
    | .value c => [c]
    | .void => []
    | .cut => [' ']

/-- A text in quotes; something of it stays even if it is empty. -/
def ofQuoted (text : String) : List Piece :=
  if text = "" then [.void] else text.toList.map .quoted

/-- A value in no quotes. -/
def ofValue (text : String) : List Piece := text.toList.map .value

/-- Fields with their ends between them. -/
def separated (fields : List (List Piece)) : List Piece :=
  [Piece.cut].intercalate fields

/-- The character of a piece that is a slash. -/
def isSlash : Piece → Bool
  | .bare '/' => true
  | .quoted '/' => true
  | .value '/' => true
  | _ => false

end Piece

namespace Fields

/-! ### Falling apart -/

/-- The fields so far, latest first. -/
structure Splitting where
  finished : List (List Piece)
  /-- The field being read, latest piece first, if one is. -/
  current : Option (List Piece)
  /-- Whether it was whitespace that ended the last field. -/
  soft : Bool

namespace Splitting

def add (piece : Piece) (splitting : Splitting) : Splitting :=
  { splitting with current := some (piece :: splitting.current.getD []), soft := false }

/-- With the field that is being read ended. -/
def close (soft : Bool) (splitting : Splitting) : Splitting :=
  match splitting.current with
  | none => splitting
  | some field => { finished := field.reverse :: splitting.finished, current := none, soft }

/-- After a piece, where the characters of `separators` separate fields. -/
def step (separators : List Char) (splitting : Splitting) (piece : Piece) : Splitting :=
  match piece with
  | .cut => { splitting.close false with soft := false }
  | .void => { splitting with current := some (splitting.current.getD []), soft := false }
  | .value c =>
    if !separators.contains c then splitting.add piece
    else if isBlank c || c == '\n' then splitting.close true
    else if splitting.current.isSome then splitting.close false
    else if splitting.soft then { splitting with soft := false }
    else { splitting with finished := [] :: splitting.finished }
  | piece => splitting.add piece

end Splitting

/-- The fields of a word. -/
def split (separators : List Char) (pieces : List Piece) : List (List Piece) :=
  let start : Splitting := { finished := [], current := none, soft := false }
  ((pieces.foldl (Splitting.step separators) start).close false).finished.reverse

/-! ### Paths -/

/-- The parts of a field between slashes. -/
def components : List Piece → List (List Piece)
  | [] => [[]]
  | piece :: rest =>
    if piece.isSlash then [] :: components rest
    else match components rest with
      | [] => [[piece]]
      | part :: parts => (piece :: part) :: parts

/-- How paths are looked for. -/
structure Search where
  world : World
  manner : Pattern.Manner
  /-- Whether names that start with a dot are matched by every pattern. -/
  hidden : Bool
  /-- Whether two asterisks lead through folders inside each other. -/
  deep : Bool

namespace Search

/-- How a session looks for paths. -/
def ofSession (session : Session) : Search :=
  { world := session.world
    manner := { folds := session.isOn "nocaseglob", extended := session.isOn "extglob" }
    hidden := session.isOn "dotglob", deep := session.isOn "globstar" }

/-- The names in the folder at a path. -/
def names (search : Search) (path : String) : List String :=
  match (search.world.reach (Octets.toText (if path = "" then "." else path))).toOption with
  | none => []
  | some folder => (search.world.tree.names folder).map Octets.ofText

def isFolder (search : Search) (path : String) : Bool :=
  search.world.find (Octets.toText path) == some .folder

/-- The folders inside a path, and inside those, or everything in them. -/
def within (search : Search) (all : Bool) : Nat → String → List String
  | 0, _ => []
  | fuel + 1, path =>
    (search.names path).flatMap fun name =>
      let inner := path ++ name
      if name.startsWith "." && !search.hidden then []
      else if search.isFolder inner then inner :: within search all fuel (inner ++ "/")
      else if all then [inner] else []

/-- The paths that start with `start` and go on with names that the parts match. Of the last part
only what is there counts. -/
def paths (search : Search) : String → List (List Piece) → List String
  | start, [] => if search.world.contains (Octets.toText start) then [start] else []
  | start, part :: rest =>
    let after (path : String) : List String :=
      if rest.isEmpty then paths search path rest else paths search (path ++ "/") rest
    let pattern := Piece.pattern part
    if search.deep && pattern == ['*', '*'] then
      let inner := search.within rest.isEmpty 64 start
      (if rest.isEmpty then if start = "" then [] else [start] else paths search start rest) ++
        inner.flatMap after
    else if Pattern.isGlob search.manner.extended false pattern then
      (search.names start).filter
          (fun name => Pattern.matchesName search.manner search.hidden pattern name.toList)
        |>.flatMap fun name => after (start ++ name)
    else after (start ++ Piece.text part)

/-- Whether a field is a pattern. -/
def isPattern (search : Search) (field : List Piece) : Bool :=
  (components field).any fun part =>
    Pattern.isGlob search.manner.extended false (Piece.pattern part)

/-- The paths that a field matches, in order. -/
def found (search : Search) (field : List Piece) : List String :=
  (search.paths "" (components field)).mergeSort fun a b => decide (a ≤ b)

end Search

/-- The texts of a field: the paths it matches, or itself. -/
def globbed (session : Session) (field : List Piece) : List String :=
  let search := Search.ofSession session
  if session.isOn "noglob" || !search.isPattern field then [Piece.text field]
  else match search.found field with
    | [] => if session.isOn "nullglob" then [] else [Piece.text field]
    | found => found

/-- Whether a field is a pattern that must match something, but does not. -/
def misses (session : Session) (field : List Piece) : Bool :=
  let search := Search.ofSession session
  session.isOn "failglob" && !session.isOn "noglob" && search.isPattern field &&
    (search.found field).isEmpty

end Fields

end FolderBackup.Shell
