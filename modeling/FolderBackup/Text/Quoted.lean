import FolderBackup.Text.Unprintable
import FolderBackup.Text.Extender

/-! Texts quoted for messages.

A quoted text stands between double quotes. Quotes, backslashes, the common controls and
every character that would not show on its own are escaped, so a reader can tell any two
texts apart and a message keeps to one line. -/
namespace FolderBackup.Text

/-- The code point in lower-case hexadecimal between braces, after a backslash and a `u`. -/
def escapedCode (c : Char) : List Char :=
  ['\\', 'u', '\x7b'] ++ Nat.toDigits 16 c.toNat ++ ['\x7d']

/-- What stands for a character between the quotes. -/
def escaped (c : Char) : List Char :=
  if c = '\x00' then ['\\', '0']
  else if c = '\t' then ['\\', 't']
  else if c = '\r' then ['\\', 'r']
  else if c = '\n' then ['\\', 'n']
  else if c = '"' then ['\\', '"']
  else if c = '\\' then ['\\', '\\']
  else if ' ' ≤ c ∧ c ≤ '~' then [c]
  else if isExtender c || isUnprintable c then escapedCode c
  else [c]

/-- The text between double quotes, escaped. -/
def quoted (text : String) : String :=
  String.ofList ('"' :: (text.toList.flatMap escaped ++ ['"']))

end FolderBackup.Text
