/-! File names.

`sanitize` makes a file name of any text: it deletes the characters that a file system may
refuse, empties a name of dots only, and keeps at most 255 bytes, cut between characters.
`isSanitized` is the test that such a name passes. A folder list becomes a name by spelling
out the slash, the null character and the space first (`ofFolders`). -/
namespace FolderBackup.FileName

/-- Characters with a meaning in some file system or shell. -/
def isReserved (c : Char) : Bool :=
  ['/', '?', '<', '>', '\\', ':', '*', '|', '"'].contains c

/-- The two blocks of control characters. -/
def isControl (c : Char) : Bool :=
  c.toNat ≤ 0x1F || (0x80 ≤ c.toNat && c.toNat ≤ 0x9F)

/-- Whether a character may stand in a file name. -/
def isAllowed (c : Char) : Bool :=
  !isReserved c && !isControl c

/-- Whether a name is one or more dots and nothing else. -/
def isDots (name : List Char) : Bool :=
  !name.isEmpty && name.all (· == '.')

/-- The longest file name, in bytes. -/
def maxBytes : Nat := 255

/-- The number of bytes of a text. -/
def byteCount (name : List Char) : Nat :=
  name.foldr (fun c count => c.utf8Size + count) 0

/-- The longest start of a text that fits into the given number of bytes. -/
def fit : Nat → List Char → List Char
  | _, [] => []
  | budget, c :: rest => if c.utf8Size ≤ budget then c :: fit (budget - c.utf8Size) rest else []

/-- A file name made of any text, on its characters. -/
def sanitizeChars (name : List Char) : List Char :=
  let kept := name.filter isAllowed
  if isDots kept then [] else fit maxBytes kept

/-- A file name made of any text. -/
def sanitize (name : String) : String :=
  String.ofList (sanitizeChars name.toList)

/-- Whether a text can be a file name as it stands; the empty text can. -/
def isSanitizedChars (name : List Char) : Bool :=
  name.all isAllowed && !isDots name && byteCount name ≤ maxBytes

/-- Whether a text can be a file name as it stands; the empty text can. -/
def isSanitized (name : String) : Bool :=
  isSanitizedChars name.toList

/-- Whether a text is accepted as the name of a job: a sanitized text that is not empty. -/
def isValid (name : String) : Bool :=
  name ≠ "" && isSanitized name

/-- What a character of a folder list becomes in the name derived from it. -/
def spelled (c : Char) : List Char :=
  if c = '/' then "SLASH".toList
  else if c = '\x00' then "NULL".toList
  else if c = ' ' then "SPACE".toList
  else [c]

/-- The name of a job derived from its folders. -/
def ofFolders (folders : String) : String :=
  String.ofList (sanitizeChars (folders.toList.flatMap spelled))

end FolderBackup.FileName
