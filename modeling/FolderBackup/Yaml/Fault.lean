/-! What keeps a text from being a YAML document.

Each fault names the rule that the text breaks and the place where it does. -/
namespace FolderBackup.Yaml

/-- A place in a text: how many bytes stand before it, and its line and column, both counted
from zero. A column is a character, however many bytes it has. -/
structure Mark where
  index : Nat
  line : Nat
  column : Nat
  deriving DecidableEq, Repr, Inhabited

namespace Mark

def start : Mark := { index := 0, line := 0, column := 0 }

/-- The place after a character of the same line. -/
def past (mark : Mark) (c : Char) : Mark :=
  { mark with index := mark.index + c.utf8Size, column := mark.column + 1 }

/-- The place after some characters of the same line. -/
def advance (mark : Mark) (run : List Char) : Mark :=
  run.foldl past mark

/-- The start of the next line, after a line break of that many bytes. -/
def nextLine (mark : Mark) (size : Nat) : Mark :=
  { index := mark.index + size, line := mark.line + 1, column := 0 }

/-- The place for a reader, counted from one; nothing at the very start of a text. -/
def suffix (mark : Mark) : String :=
  if mark.line = 0 ∧ mark.column = 0 then ""
  else " at line " ++ toString (mark.line + 1) ++ " column " ++ toString (mark.column + 1)

end Mark

/-- The rules a text can break. -/
inductive Fault.Cause where
  | controlCharacter
  | noToken
  | missingColon
  | entryNotAllowed
  | keyNotAllowed
  | valueNotAllowed
  | directiveName
  | directiveNameEnd
  | unknownDirective
  | versionNumber
  | longVersionNumber
  | directiveEnd
  | tagHandle
  | tagUri
  | tagWhitespace
  | tagEnd
  | uriEscape
  | uriLeadingOctet
  | uriTrailingOctet
  | verbatimTagEnd
  | anchorName
  | zeroIndentation
  | headerEnd
  | tabIndentation
  | tabInPlainScalar
  | documentIndicator
  | unclosedQuote
  | unknownEscape
  | hexadecimalDigit
  | escapedCodePoint
  | unexpectedColon
  | documentStart
  | duplicateVersion
  | incompatibleVersion
  | duplicateTagDirective
  | undefinedTagHandle
  | nodeContent
  | sequenceEntry
  | mappingKey
  | flowSequenceEnd
  | flowMappingEnd
  deriving DecidableEq, Repr

def Fault.Cause.message : Fault.Cause → String
  | .controlCharacter => "control characters are not allowed"
  | .noToken => "found character that cannot start any token"
  | .missingColon => "could not find expected ':'"
  | .entryNotAllowed => "block sequence entries are not allowed in this context"
  | .keyNotAllowed => "mapping keys are not allowed in this context"
  | .valueNotAllowed => "mapping values are not allowed in this context"
  | .directiveName => "could not find expected directive name"
  | .directiveNameEnd => "found unexpected non-alphabetical character"
  | .unknownDirective => "found unknown directive name"
  | .versionNumber => "did not find expected digit or '.' character"
  | .longVersionNumber => "found extremely long version number"
  | .directiveEnd => "did not find expected comment or line break"
  | .tagHandle => "did not find expected '!'"
  | .tagUri => "did not find expected tag URI"
  | .tagWhitespace => "did not find expected whitespace"
  | .tagEnd => "did not find expected whitespace or line break"
  | .uriEscape => "did not find URI escaped octet"
  | .uriLeadingOctet => "found an incorrect leading UTF-8 octet"
  | .uriTrailingOctet => "found an incorrect trailing UTF-8 octet"
  | .verbatimTagEnd => "did not find the expected '>'"
  | .anchorName => "did not find expected alphabetic or numeric character"
  | .zeroIndentation => "found an indentation indicator equal to 0"
  | .headerEnd => "did not find expected comment or line break"
  | .tabIndentation => "found a tab character where an indentation space is expected"
  | .tabInPlainScalar => "found a tab character that violates indentation"
  | .documentIndicator => "found unexpected document indicator"
  | .unclosedQuote => "found unexpected end of stream"
  | .unknownEscape => "found unknown escape character"
  | .hexadecimalDigit => "did not find expected hexdecimal number"
  | .escapedCodePoint => "found invalid Unicode character escape code"
  | .unexpectedColon => "found unexpected ':'"
  | .documentStart => "did not find expected <document start>"
  | .duplicateVersion => "found duplicate %YAML directive"
  | .incompatibleVersion => "found incompatible YAML document"
  | .duplicateTagDirective => "found duplicate %TAG directive"
  | .undefinedTagHandle => "found undefined tag handle"
  | .nodeContent => "did not find expected node content"
  | .sequenceEntry => "did not find expected '-' indicator"
  | .mappingKey => "did not find expected key"
  | .flowSequenceEnd => "did not find expected ',' or ']'"
  | .flowMappingEnd => "did not find expected ',' or '\x7d'"

/-- A broken rule and where it is broken. -/
structure Fault where
  cause : Fault.Cause
  mark : Mark
  deriving DecidableEq, Repr

def Fault.message (fault : Fault) : String :=
  fault.cause.message ++ fault.mark.suffix

end FolderBackup.Yaml
