import FolderBackup.Shell.Script

/-! What quotes, braces and parentheses enclose.

A word is kept as it stands in the text. When it is expanded, the ends of the things in it are found
as they were when the text was read. -/
namespace FolderBackup.Shell.Enclosed

/-- What was read of a text before the closer, and what comes after it. -/
def found (extended : Bool) (reading : Reading (List Char)) (text : List Char) :
    Option (List Char × List Char) :=
  let (result, after) := reading.run { Reader.ofText text 1 extended with tidies := false }
  match result with
  | .ok read => some (read.dropLast, after.rest)
  | .error _ => none

/-- Reading commands up to the parenthesis that closes them. -/
def commands (text : List Char) : Reading Raw :=
  Reader.inside (16 * text.length + 64)

/-- What stands after a dollar sign and an opening brace, bracket or parenthesis, up to its closer,
and what comes after that. -/
def value? (extended doubled : Bool) (opener : Char) (text : List Char) :
    Option (List Char × List Char) :=
  found extended
    (Reader.valueText (commands text) (4 * text.length + 16) opener doubled none) text

/-- What stands after an opening double quote, and what comes after the closing one. -/
def doubled? (extended : Bool) (text : List Char) : Option (List Char × List Char) :=
  found extended (Reader.paired (commands text) (.quotes '"')) text

/-- The words of a list of values. -/
def words (extended : Bool) (text : List Char) : List Raw :=
  go (text.length + 1) { Reader.ofText text 1 extended with tidies := false }
where
  go : Nat → Reader → List Raw
    | 0, _ => []
    | fuel + 1, reader =>
      match (Reader.token (commands text) (4 * text.length + 16) .element).run reader with
      | (.ok (.word raw), after) => raw :: go fuel after
      | (.ok (.number digits), after) => digits :: go fuel after
      | (.ok .textEnd, _) => []
      | (.ok _, after) => go fuel after
      | (.error _, _) => []

/-- What stands before a character that no backslash goes before, and what comes after it. -/
def before? (sign : Char) : List Char → Option (List Char × List Char)
  | [] => none
  | '\\' :: c :: rest => (before? sign rest).map fun (front, back) => ('\\' :: c :: front, back)
  | c :: rest =>
    if c = sign then some ([], rest)
    else (before? sign rest).map fun (front, back) => (c :: front, back)

/-- What stands before a single quote, and what comes after it. -/
def single? (text : List Char) : Option (List Char × List Char) :=
  let front := text.takeWhile (· ≠ '\'')
  match text.drop front.length with
  | _ :: rest => some (front, rest)
  | [] => none

/-- The text up to a sign that stands in no quotes, braces or parentheses, and from there on; all
of it if there is none. -/
def upTo (extended : Bool) (signs : Char → Bool) : Nat → List Char → List Char × List Char
  | 0, text => (text, [])
  | _, [] => ([], [])
  | fuel + 1, c :: rest =>
    let onward (front : List Char) (back : List Char) : List Char × List Char :=
      let (more, after) := upTo extended signs fuel back
      (front ++ more, after)
    let pair (opening : List Char) (closer : Char) (inner : Option (List Char × List Char)) :
        List Char × List Char :=
      match inner with
      | some (inner, back) => onward (opening ++ inner ++ [closer]) back
      | none => (c :: rest, [])
    if signs c then ([], c :: rest)
    else match c, rest with
      | '\\', d :: more => onward ['\\', d] more
      | '\'', rest => pair ['\''] '\'' (single? rest)
      | '"', rest => pair ['"'] '"' (doubled? extended rest)
      | '\x60', rest => pair ['\x60'] '\x60' (before? '\x60' rest)
      | '$', '\'' :: more => pair ['$', '\''] '\'' (before? '\'' more)
      | '$', '(' :: more => pair ['$', '('] ')' (value? extended false '(' more)
      | '$', '\x7b' :: more => pair ['$', '\x7b'] '\x7d' (value? extended false '\x7b' more)
      | c, rest => onward [c] rest

end FolderBackup.Shell.Enclosed
