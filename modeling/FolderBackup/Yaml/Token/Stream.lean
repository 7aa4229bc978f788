import FolderBackup.Yaml.Token.Tag

/-! The tokens of a text.

Indentation opens and closes blocks. What stands before a colon on one line is a key: when a
token that could start one is met, its place is remembered, and when the colon comes, a key
token is put in front of that place. So the tokens from the first such place on are not
settled yet; `Tokens` says how many are when a fault ends the text. -/
namespace FolderBackup.Yaml

/-- A token that may turn out to start a key, by the number of tokens before it. -/
structure PendingKey where
  required : Bool
  position : Nat
  mark : Mark
  deriving Repr

/-- A text partly read: the tokens so far, latest first, the indentations of the open blocks,
innermost first, and for every open bracket and the text around them the key that may be
pending there. -/
structure Scan where
  cursor : Cursor
  latest : List Token
  indent : Int
  outer : List Int
  flowLevel : Nat
  keyAllowed : Bool
  pending : Option PendingKey
  outerPending : List (Option PendingKey)

namespace Scan

def count (scan : Scan) : Nat := scan.latest.length

def inFlow (scan : Scan) : Bool := 0 < scan.flowLevel

def fault {α : Type} (scan : Scan) (cause : Fault.Cause) : Except Fault α :=
  scan.cursor.fault cause

/-! ### Putting tokens -/

/-- With one more token. -/
def push (scan : Scan) (token : Token) : Scan :=
  { scan with latest := token :: scan.latest }

/-- With a token put in front of the one at a position. -/
def insertAt (scan : Scan) (position : Nat) (token : Token) : Scan :=
  { scan with latest := scan.latest.insertIdx (scan.count - position) token }

/-- With one more token, from here to where the cursor is afterwards. -/
def pushTo (scan : Scan) (kind : Token.Kind) (after : Cursor) : Scan :=
  { scan.push { kind, start := scan.cursor.mark, stop := after.mark } with cursor := after }

/-- With one more token of a few characters. -/
def pushChars (scan : Scan) (kind : Token.Kind) (count : Nat) : Scan :=
  scan.pushTo kind (scan.cursor.skip count)

/-! ### Blocks -/

/-- With a block opened, if the column is to the right of the innermost one. -/
def openBlock (scan : Scan) (column : Nat) (position : Nat) (kind : Token.Kind) (mark : Mark) :
    Scan :=
  if scan.inFlow then scan
  else if scan.indent < column then
    { scan.insertAt position { kind, start := mark, stop := mark } with
      indent := column, outer := scan.indent :: scan.outer }
  else scan

/-- With the blocks closed that are to the right of the column. -/
def closeBlocks (scan : Scan) (column : Int) : Scan :=
  if scan.inFlow then scan else go scan.outer scan
where
  go : List Int → Scan → Scan
    | [], scan => scan
    | indent :: rest, scan =>
      if column < scan.indent then
        go rest { scan.push
            { kind := .blockEnd, start := scan.cursor.mark, stop := scan.cursor.mark }
          with indent, outer := rest }
      else scan

/-! ### Pending keys -/

/-- A key cannot go over the end of a line, nor be longer than 1024 bytes. -/
def isStale (mark : Mark) (key : PendingKey) : Bool :=
  key.mark.line < mark.line || key.mark.index + 1024 < mark.index

/-- With the keys dropped that can no longer be; it is a fault if one of them had to be. -/
def dropStale (scan : Scan) : Except Fault Scan :=
  let stale := isStale scan.cursor.mark
  if (scan.pending :: scan.outerPending).any (·.any fun key => stale key && key.required) then
    scan.fault .missingColon
  else
    let keep (key : Option PendingKey) := key.filter (!stale ·)
    .ok { scan with pending := keep scan.pending, outerPending := scan.outerPending.map keep }

/-- With no key pending at this level; it is a fault if there had to be one. -/
def dropPending (scan : Scan) : Except Fault Scan :=
  if scan.pending.any (·.required) then scan.fault .missingColon
  else .ok { scan with pending := none }

/-- With a key pending at this place, if one may start here. -/
def savePending (scan : Scan) : Except Fault Scan :=
  if !scan.keyAllowed then .ok scan
  else do
    let required := !scan.inFlow && scan.indent == scan.cursor.mark.column
    let dropped ← scan.dropPending
    .ok { dropped with
      pending := some { required, position := scan.count, mark := scan.cursor.mark } }

/-- How many tokens are settled: those before the first pending key. -/
def settled (scan : Scan) : Nat :=
  (scan.pending :: scan.outerPending).foldl
    (fun least key => key.elim least fun key => min least key.position) scan.count

/-! ### One token -/

/-- Past the blanks, comments and line breaks that start here. A line break lets a key start
outside brackets; a tab counts as a blank only where no key can start. A byte order mark may
start a line and takes up a column. -/
def skipToToken : Nat → Scan → Scan
  | 0, scan => scan
  | fuel + 1, scan =>
    let cursor := if scan.cursor.mark.column = 0 ∧ scan.cursor.looksAt '\uFEFF' then
      scan.cursor.skip 1 else scan.cursor
    let tabs := scan.inFlow || !scan.keyAllowed
    let cursor := (cursor.skipWhile fun c => c == ' ' || (tabs && c == '\t')).skipComment
    if cursor.rest.head?.any isBreak then
      skipToToken fuel
        { scan with cursor := cursor.skipBreak, keyAllowed := !scan.inFlow || scan.keyAllowed }
    else { scan with cursor }

/-- At the end of the text every block is closed, as if on a line of its own. -/
def readEnd (scan : Scan) : Except Fault Scan := do
  let mark := scan.cursor.mark
  let mark := if mark.column = 0 then mark else { mark with line := mark.line + 1, column := 0 }
  let closed ← ({ scan with cursor := { scan.cursor with mark } }.closeBlocks (-1)).dropPending
  .ok ({ closed with keyAllowed := false }.pushChars .streamEnd 0)

def readDirectiveToken (scan : Scan) : Except Fault Scan := do
  let scan ← (scan.closeBlocks (-1)).dropPending
  let (kind, stop, after) ← readDirective scan.cursor
  .ok { scan.push { kind, start := scan.cursor.mark, stop } with
    cursor := after, keyAllowed := false }

def readIndicator (scan : Scan) (kind : Token.Kind) : Except Fault Scan := do
  let scan ← (scan.closeBlocks (-1)).dropPending
  .ok ({ scan with keyAllowed := false }.pushChars kind 3)

def readFlowStart (scan : Scan) (kind : Token.Kind) : Except Fault Scan := do
  let scan ← scan.savePending
  .ok ({ scan with
    pending := none, outerPending := scan.pending :: scan.outerPending
    flowLevel := scan.flowLevel + 1, keyAllowed := true }.pushChars kind 1)

def readFlowEnd (scan : Scan) (kind : Token.Kind) : Except Fault Scan := do
  let scan ← scan.dropPending
  let scan := match scan.outerPending with
    | key :: rest => { scan with
        pending := key, outerPending := rest, flowLevel := scan.flowLevel - 1 }
    | [] => scan
  .ok ({ scan with keyAllowed := false }.pushChars kind 1)

def readFlowEntry (scan : Scan) : Except Fault Scan := do
  let scan ← scan.dropPending
  .ok ({ scan with keyAllowed := true }.pushChars .flowEntry 1)

def readBlockEntry (scan : Scan) : Except Fault Scan := do
  if !scan.inFlow && !scan.keyAllowed then scan.fault .entryNotAllowed
  else
    let mark := scan.cursor.mark
    let scan ← (scan.openBlock mark.column scan.count .blockSequenceStart mark).dropPending
    .ok ({ scan with keyAllowed := true }.pushChars .blockEntry 1)

def readKey (scan : Scan) : Except Fault Scan := do
  if !scan.inFlow && !scan.keyAllowed then scan.fault .keyNotAllowed
  else
    let mark := scan.cursor.mark
    let scan ← (scan.openBlock mark.column scan.count .blockMappingStart mark).dropPending
    .ok ({ scan with keyAllowed := !scan.inFlow }.pushChars .key 1)

/-- A colon: with a key pending, that key ends here; else the key was written after a question
mark, or is missing. -/
def readValue (scan : Scan) : Except Fault Scan :=
  match scan.pending with
  | some key =>
    let scan := scan.insertAt key.position { kind := .key, start := key.mark, stop := key.mark }
    let scan := scan.openBlock key.mark.column key.position .blockMappingStart key.mark
    .ok ({ scan with pending := none, keyAllowed := false }.pushChars .value 1)
  | none =>
    if !scan.inFlow && !scan.keyAllowed then scan.fault .valueNotAllowed
    else
      let mark := scan.cursor.mark
      let scan := scan.openBlock mark.column scan.count .blockMappingStart mark
      .ok ({ scan with keyAllowed := !scan.inFlow }.pushChars .value 1)

def readAnchor (scan : Scan) (kind : String → Token.Kind) : Except Fault Scan := do
  let scan ← scan.savePending
  let (name, after) ← readAnchorName scan.cursor
  .ok ({ scan with keyAllowed := false }.pushTo (kind name) after)

def readTagToken (scan : Scan) : Except Fault Scan := do
  let scan ← scan.savePending
  let (kind, after) ← readTag scan.inFlow scan.cursor
  .ok ({ scan with keyAllowed := false }.pushTo kind after)

def readBlockScalar (scan : Scan) (folded : Bool) : Except Fault Scan := do
  let scan ← scan.dropPending
  let (text, stop, after) ← BlockScalar.read folded scan.indent scan.cursor
  let kind := .scalar (String.ofList text) (if folded then .folded else .literal)
  .ok { scan.push { kind, start := scan.cursor.mark, stop } with
    cursor := after, keyAllowed := true }

def readQuotedScalar (scan : Scan) (single : Bool) : Except Fault Scan := do
  let scan ← scan.savePending
  let (text, after) ← QuotedScalar.read single scan.cursor
  let kind := .scalar (String.ofList text) (if single then .singleQuoted else .doubleQuoted)
  .ok ({ scan with keyAllowed := false }.pushTo kind after)

def readPlainScalar (scan : Scan) : Except Fault Scan := do
  let scan ← scan.savePending
  let reading ← PlainScalar.read scan.inFlow (scan.indent + 1) scan.cursor
  let token := { kind := .scalar (String.ofList reading.text) .plain
                 start := scan.cursor.mark, stop := reading.stop }
  .ok { scan.push token with cursor := reading.cursor, keyAllowed := reading.gap.broken }

/-- The characters that cannot start a plain scalar by themselves. -/
def isIndicator (c : Char) : Bool :=
  ['-', '?', ':', ',', '[', ']', '\x7b', '\x7d', '#', '&', '*', '!', '|', '>', '\'', '"', '%', '@',
    '\x60'].contains c

/-- The token that starts with the character `c`, which is followed by `rest`. -/
def readToken (scan : Scan) (c : Char) (rest : List Char) : Except Fault Scan :=
  let indicates := scan.inFlow || atBlank rest
  if scan.cursor.mark.column == 0 && c == '%' then scan.readDirectiveToken
  else if scan.cursor.mark.column == 0 && startsIndicator '-' (c :: rest) then
    scan.readIndicator .documentStart
  else if scan.cursor.mark.column == 0 && startsIndicator '.' (c :: rest) then
    scan.readIndicator .documentEnd
  else if c == '[' then scan.readFlowStart .flowSequenceStart
  else if c == '\x7b' then scan.readFlowStart .flowMappingStart
  else if c == ']' then scan.readFlowEnd .flowSequenceEnd
  else if c == '\x7d' then scan.readFlowEnd .flowMappingEnd
  else if c == ',' then scan.readFlowEntry
  else if c == '-' && atBlank rest then scan.readBlockEntry
  else if c == '?' && indicates then scan.readKey
  else if c == ':' && indicates then scan.readValue
  else if c == '*' then scan.readAnchor .aliasOf
  else if c == '&' then scan.readAnchor .anchor
  else if c == '!' then scan.readTagToken
  else if c == '|' && !scan.inFlow then scan.readBlockScalar false
  else if c == '>' && !scan.inFlow then scan.readBlockScalar true
  else if c == '\'' then scan.readQuotedScalar true
  else if c == '"' then scan.readQuotedScalar false
  else if !(isSpaceOrTab c || isBreak c || isIndicator c) ||
      (c == '-' && !rest.head?.any isSpaceOrTab) ||
      (!scan.inFlow && (c == '?' || c == ':') && !atBlank rest) then
    scan.readPlainScalar
  else scan.fault .noToken

/-- One more token, and the tokens that close blocks before it. -/
def next (scan : Scan) : Except Fault Scan := do
  let scan := skipToToken (scan.cursor.rest.length + 1) scan
  let scan ← scan.dropStale
  let scan := scan.closeBlocks scan.cursor.mark.column
  match scan.cursor.rest with
  | [] => scan.readEnd
  | c :: rest => scan.readToken c rest

/-- At the start of a text. -/
def start (text : List Char) : Scan where
  cursor := { rest := text, mark := .start }
  latest := []
  indent := -1
  outer := []
  flowLevel := 0
  keyAllowed := true
  pending := none
  outerPending := []

/-- Whether the end of the text is among the tokens. -/
def isAtEnd (scan : Scan) : Bool :=
  scan.latest.head?.any (·.kind == .streamEnd)

end Scan

/-- The tokens of a text, and the fault that ends them if there is one. -/
structure Tokens where
  tokens : List Token
  fault : Option Fault

namespace Tokens

/-- The tokens from here on: each step's fault leaves the tokens that were settled before the
step. -/
def scan : Nat → Scan → Tokens
  | 0, s => { tokens := s.latest.reverse, fault := none }
  | fuel + 1, s =>
    if s.isAtEnd then { tokens := s.latest.reverse, fault := none }
    else
      let faulty (fault : Fault) : Tokens :=
        { tokens := s.latest.reverse.take s.settled, fault := some fault }
      match s.next with
      | .error fault => faulty fault
      | .ok after => match after.dropStale with
        | .error fault => faulty fault
        | .ok after => scan fuel after

/-- The tokens of a text. -/
def ofText (text : String) : Tokens :=
  let chars := text.toList
  match chars.find? (!isAdmitted ·) with
  | some _ => { tokens := [], fault := some { cause := .controlCharacter, mark := .start } }
  | none => scan (2 * chars.length + 2) (.start chars)

end Tokens

end FolderBackup.Yaml
