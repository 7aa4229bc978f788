/-! Lines of a text, and indentation.

A line ends at a line feed, and a carriage return just before it belongs to the ending.
`indent` writes two spaces before every line that is not empty, and keeps the line feed
that ends the text if there is one. -/
namespace FolderBackup.Text

/-- The lines of a text, without their endings; a text that ends in a line feed has no
empty line after it. -/
def lines : List Char → List (List Char)
  | [] => []
  | c :: rest =>
    if c = '\n' then [] :: lines rest
    else if c = '\r' ∧ rest.head? = some '\n' then lines rest
    else match lines rest with
      | [] => [[c]]
      | line :: more => (c :: line) :: more

/-- The lines joined by line feeds. -/
def joinLines (ls : List (List Char)) : List Char :=
  List.intercalate ['\n'] ls

/-- Two spaces before a line, unless it is empty. -/
def indentLine : List Char → List Char
  | [] => []
  | line => ' ' :: ' ' :: line

/-- The line feed that ends a text, if there is one. -/
def ending (text : List Char) : List Char :=
  if text.getLast? = some '\n' then ['\n'] else []

/-- The text with every line indented. -/
def indentChars (text : List Char) : List Char :=
  joinLines ((lines text).map indentLine) ++ ending text

/-- The text with every line indented. -/
def indent (text : String) : String :=
  String.ofList (indentChars text.toList)

/-- The lines of a text as strings. -/
def linesOf (text : String) : List String :=
  (lines text.toList).map String.ofList

end FolderBackup.Text
