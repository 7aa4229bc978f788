import FolderBackup.Shell.Octets

/-! Classes of characters.

In the brackets of a pattern or of a regular expression a class or a single character can be given
by its name. -/
namespace FolderBackup.Shell.Classes

def isPunctuation (c : Char) : Bool := '!' ≤ c && c ≤ '~' && !c.isAlphanum

/-- The characters of a class by its name. -/
def named? (name : String) : Option (Char → Bool) :=
  match name with
  | "alnum" => some Char.isAlphanum
  | "alpha" => some Char.isAlpha
  | "ascii" => some fun c => c.toNat < 128
  | "blank" => some isBlank
  | "cntrl" => some fun c => c.toNat < 32 || c.toNat == 127
  | "digit" => some Char.isDigit
  | "graph" => some fun c => '!' ≤ c && c ≤ '~'
  | "lower" => some Char.isLower
  | "print" => some isPrintable
  | "punct" => some isPunctuation
  | "space" => some isSpace
  | "upper" => some Char.isUpper
  | "word" => some isNameChar
  | "xdigit" => some isHexadecimal
  | _ => none

/-- The names of the control characters, from the first on. -/
def controls : List (List String) :=
  [["NUL"], ["SOH"], ["STX"], ["ETX"], ["EOT"], ["ENQ"], ["ACK"], ["alert", "BEL"],
    ["BS", "backspace"], ["HT", "tab"], ["LF", "newline"], ["VT", "vertical-tab"],
    ["FF", "form-feed"], ["CR", "carriage-return"], ["SO"], ["SI"], ["DLE"], ["DC1"], ["DC2"],
    ["DC3"], ["DC4"], ["NAK"], ["SYN"], ["ETB"], ["CAN"], ["EM"], ["SUB"], ["ESC"],
    ["IS4", "FS"], ["IS3", "GS"], ["IS2", "RS"], ["IS1", "US"]]

/-- The names of the characters after those that are not letters. -/
def signs : List (String × Char) :=
  [("space", ' '), ("exclamation-mark", '!'), ("quotation-mark", '"'), ("number-sign", '#'),
    ("dollar-sign", '$'), ("percent-sign", '%'), ("ampersand", '&'), ("apostrophe", '\''),
    ("left-parenthesis", '('), ("right-parenthesis", ')'), ("asterisk", '*'), ("plus-sign", '+'),
    ("comma", ','), ("hyphen", '-'), ("hyphen-minus", '-'), ("minus", '-'), ("dash", '-'),
    ("period", '.'), ("full-stop", '.'), ("slash", '/'), ("solidus", '/'), ("zero", '0'),
    ("one", '1'), ("two", '2'), ("three", '3'), ("four", '4'), ("five", '5'), ("six", '6'),
    ("seven", '7'), ("eight", '8'), ("nine", '9'), ("colon", ':'), ("semicolon", ';'),
    ("less-than-sign", '<'), ("equals-sign", '='), ("greater-than-sign", '>'),
    ("question-mark", '?'), ("commercial-at", '@'), ("left-square-bracket", '['),
    ("backslash", '\\'), ("reverse-solidus", '\\'), ("right-square-bracket", ']'),
    ("circumflex", '^'), ("circumflex-accent", '^'), ("underscore", '_'), ("grave-accent", '\x60'),
    ("left-brace", '\x7b'), ("left-curly-bracket", '\x7b'), ("vertical-line", '|'),
    ("right-brace", '\x7d'), ("right-curly-bracket", '\x7d'), ("tilde", '~'), ("DEL", '\x7f')]

/-- The character that a name stands for; a single character stands for itself. -/
def symbol? (name : List Char) : Option Char :=
  match name with
  | [c] => some c
  | name =>
    let text := String.ofList name
    match controls.findIdx? (·.contains text) with
    | some code => some (Char.ofNat code)
    | none => (signs.find? (·.1 == text)).map Prod.snd

end FolderBackup.Shell.Classes
