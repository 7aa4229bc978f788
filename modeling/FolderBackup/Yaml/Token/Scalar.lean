import FolderBackup.Yaml.Token

/-! Scalar tokens.

Plain and quoted scalars are runs of characters with gaps between them. A gap within a line
is kept; one that holds line breaks is folded: a single line feed becomes a space, further
ones are kept. Block scalars take whole lines below an indentation. -/
namespace FolderBackup.Yaml

/-! ### Gaps between runs -/

/-- The blanks and line breaks between two runs: the blanks while no break is met, then the
first break and the ones after it. -/
structure Gap where
  broken : Bool
  spaces : List Char
  first : List Char
  more : List Char
  deriving Repr

namespace Gap

def empty : Gap := { broken := false, spaces := [], first := [], more := [] }

/-- The gap after a backslash at the end of a line, which joins two lines without a space. -/
def joined : Gap := { empty with broken := true }

def addSpace (gap : Gap) (c : Char) : Gap :=
  if gap.broken then gap else { gap with spaces := gap.spaces ++ [c] }

def addBreak (gap : Gap) (c : Char) : Gap :=
  if gap.broken then { gap with more := gap.more ++ [c] }
  else { broken := true, spaces := [], first := [c], more := [] }

/-- What a gap contributes to a scalar. -/
def text (gap : Gap) : List Char :=
  if !gap.broken then gap.spaces
  else if gap.first = ['\n'] then (if gap.more.isEmpty then [' '] else gap.more)
  else gap.first ++ gap.more

/-- The gap that starts here. A tab to the left of the column `limit` is a fault once a line
has ended. -/
def scan (limit : Int) : List Char → Mark → Gap → Except Fault (Gap × Cursor)
  | [], mark, gap => .ok (gap, { rest := [], mark })
  | c :: rest, mark, gap =>
    if isSpaceOrTab c then
      if gap.broken ∧ c = '\t' ∧ (mark.column : Int) < limit then
        .error { cause := .tabInPlainScalar, mark }
      else scan limit rest (mark.past c) (gap.addSpace c)
    else if c = '\r' ∧ rest.head? = some '\n' then scan limit rest (mark.past c) gap
    else if isBreak c then scan limit rest (mark.nextLine c.utf8Size) (gap.addBreak (breakText c))
    else .ok (gap, { rest := c :: rest, mark })

end Gap

/-- Whether a gap starts here. -/
def Cursor.atGap (cursor : Cursor) : Bool :=
  match cursor.rest with
  | [] => false
  | c :: _ => isSpaceOrTab c || isBreak c

/-! ### Plain scalars -/

namespace PlainScalar

/-- The characters that end a plain scalar between brackets. -/
def isFlowIndicator (c : Char) : Bool :=
  [',', '[', ']', '\x7b', '\x7d'].contains c

/-- A run of a plain scalar: it ends at a blank, at a colon before one, and between brackets
at a comma or a bracket. -/
def run (flow : Bool) : List Char → Mark → Except Fault (List Char × Cursor)
  | [], mark => .ok ([], { rest := [], mark })
  | c :: rest, mark =>
    let here : Cursor := { rest := c :: rest, mark }
    if isSpaceOrTab c || isBreak c then .ok ([], here)
    else if flow && c == ':' && rest.head?.any (fun d => d == '?' || isFlowIndicator d) then
      here.fault .unexpectedColon
    else if (c == ':' && atBlank rest) || (flow && isFlowIndicator c) then .ok ([], here)
    else (run flow rest (mark.past c)).map fun (cs, after) => (c :: cs, after)

/-- A plain scalar as far as it is read. -/
structure Reading where
  text : List Char
  gap : Gap
  stop : Mark
  cursor : Cursor

/-- The runs and gaps of a plain scalar. Outside brackets it ends before a line whose
indentation is below `indent`. -/
def scan (flow : Bool) (indent : Int) : Nat → Reading → Except Fault Reading
  | 0, reading => .ok reading
  | fuel + 1, reading =>
    if reading.cursor.atIndicator || reading.cursor.looksAt '#' then .ok reading
    else do
      let (cs, after) ← run flow reading.cursor.rest reading.cursor.mark
      let reading := if cs.isEmpty then { reading with cursor := after } else
        { text := reading.text ++ reading.gap.text ++ cs, gap := .empty
          stop := after.mark, cursor := after }
      if !after.atGap then .ok reading
      else
        let (gap, after) ← Gap.scan indent after.rest after.mark reading.gap
        let reading := { reading with gap, cursor := after }
        if !flow && (after.mark.column : Int) < indent then .ok reading
        else scan flow indent fuel reading

/-- The plain scalar that starts here. -/
def read (flow : Bool) (indent : Int) (cursor : Cursor) : Except Fault Reading :=
  scan flow indent (cursor.rest.length + 1)
    { text := [], gap := .empty, stop := cursor.mark, cursor }

end PlainScalar

/-! ### Quoted scalars -/

namespace QuotedScalar

/-- What a backslash and this character stand for. -/
def escape? : Char → Option Char
  | '0' => some '\x00'
  | 'a' => some '\x07'
  | 'b' => some '\x08'
  | 't' => some '\t'
  | '\t' => some '\t'
  | 'n' => some '\n'
  | 'v' => some '\x0B'
  | 'f' => some '\x0C'
  | 'r' => some '\r'
  | 'e' => some '\x1B'
  | ' ' => some ' '
  | '"' => some '"'
  | '/' => some '/'
  | '\\' => some '\\'
  | 'N' => some '\u0085'
  | '_' => some '\u00A0'
  | 'L' => some '\u2028'
  | 'P' => some '\u2029'
  | _ => none

/-- How many hexadecimal digits follow a backslash and this character. -/
def codeLength? : Char → Option Nat
  | 'x' => some 2
  | 'u' => some 4
  | 'U' => some 8
  | _ => none

def hexDigit? (c : Char) : Option Nat :=
  if '0' ≤ c ∧ c ≤ '9' then some (c.toNat - '0'.toNat)
  else if 'a' ≤ c ∧ c ≤ 'f' then some (c.toNat - 'a'.toNat + 10)
  else if 'A' ≤ c ∧ c ≤ 'F' then some (c.toNat - 'A'.toNat + 10)
  else none

/-- The character an escape sequence stands for, the cursor being at the backslash. -/
def readEscape (cursor : Cursor) : Except Fault (Char × Cursor) :=
  match cursor.rest.tail.head? with
  | none => cursor.fault .unknownEscape
  | some c => match escape? c, codeLength? c with
    | some d, _ => .ok (d, cursor.skip 2)
    | none, none => cursor.fault .unknownEscape
    | none, some count =>
      let after := cursor.skip 2
      let digits := after.rest.take count
      match digits.mapM hexDigit? with
      | none => after.fault .hexadecimalDigit
      | some values =>
        if digits.length < count then after.fault .hexadecimalDigit
        else
          let code := values.foldl (fun n d => 16 * n + d) 0
          if (0xD800 ≤ code ∧ code ≤ 0xDFFF) ∨ 0x10FFFF < code then
            after.fault .escapedCodePoint
          else .ok (Char.ofNat code, after.skip count)

/-- A run of a quoted scalar, the gap that an escaped line break starts if one ends the run,
and what comes after. -/
def run (single : Bool) : Nat → Cursor → Except Fault (List Char × Gap × Cursor)
  | 0, cursor => .ok ([], .empty, cursor)
  | fuel + 1, cursor =>
    match cursor.rest with
    | [] => .ok ([], .empty, cursor)
    | c :: rest =>
      if isSpaceOrTab c || isBreak c then .ok ([], .empty, cursor)
      else if single && c == '\'' && rest.head? == some '\'' then
        (run single fuel (cursor.skip 2)).map fun (cs, more) => ('\'' :: cs, more)
      else if c == (if single then '\'' else '"') then .ok ([], .empty, cursor)
      else if !single && c == '\\' then
        if rest.head?.any isBreak then .ok ([], .joined, (cursor.skip 1).skipBreak)
        else do
          let (d, after) ← readEscape cursor
          (run single fuel after).map fun (cs, more) => (d :: cs, more)
      else (run single fuel (cursor.skip 1)).map fun (cs, more) => (c :: cs, more)

/-- The runs and gaps of a quoted scalar, up to and with the quote that closes it. -/
def scan (single : Bool) : Nat → List Char → Cursor → Except Fault (List Char × Cursor)
  | 0, _, cursor => cursor.fault .unclosedQuote
  | fuel + 1, text, cursor =>
    if cursor.atIndicator then cursor.fault .documentIndicator
    else if cursor.rest.isEmpty then cursor.fault .unclosedQuote
    else do
      let (cs, gap, after) ← run single cursor.rest.length cursor
      if after.looksAt (if single then '\'' else '"') then .ok (text ++ cs, after.skip 1)
      else
        let (gap, after) ← Gap.scan 0 after.rest after.mark gap
        scan single fuel (text ++ cs ++ gap.text) after

/-- The quoted scalar whose opening quote is here. -/
def read (single : Bool) (cursor : Cursor) : Except Fault (List Char × Cursor) :=
  scan single (cursor.rest.length + 1) [] (cursor.skip 1)

end QuotedScalar

/-! ### Block scalars -/

namespace BlockScalar

/-- What becomes of the line breaks at the end. -/
inductive Chomping where
  | strip
  | clip
  | keep
  deriving DecidableEq, Repr

def chomping? : Char → Option Chomping
  | '+' => some .keep
  | '-' => some .strip
  | _ => none

/-- The indentation indicator at the cursor: a digit from one to nine. -/
def readIncrement (cursor : Cursor) : Except Fault (Nat × Cursor) :=
  match cursor.rest with
  | c :: _ =>
    if !c.isDigit then .ok (0, cursor)
    else if c = '0' then cursor.fault .zeroIndentation
    else .ok (c.toNat - '0'.toNat, cursor.skip 1)
  | [] => .ok (0, cursor)

/-- The chomping indicator at the cursor. -/
def readChomping (cursor : Cursor) : Option Chomping × Cursor :=
  match cursor.rest.head?.bind chomping? with
  | some chomping => (some chomping, cursor.skip 1)
  | none => (none, cursor)

/-- The indicators after the bar or the angle, in either order. -/
def readHeader (cursor : Cursor) : Except Fault (Chomping × Nat × Cursor) :=
  match readChomping cursor with
  | (some chomping, after) => do
    let (increment, after) ← readIncrement after
    .ok (chomping, increment, after)
  | (none, _) => do
    let (increment, after) ← readIncrement cursor
    if increment = 0 then .ok (.clip, 0, after)
    else
      let (chomping, after) := readChomping after
      .ok (chomping.getD .clip, increment, after)

/-- What stands between two lines of text: the indentation, once it is known, the line
breaks of the empty lines, and where the last of them stops. -/
structure Between where
  indent : Nat
  breaks : List Char
  stop : Mark
  cursor : Cursor

/-- Empty lines, and the indentation of the line after them. An indentation of zero is not
known yet: it becomes the widest one met, and at least one more than the parent's. -/
def between (parent : Int) (indent : Nat) :
    Nat → Nat → List Char → Mark → Cursor → Except Fault Between
  | 0, _, breaks, stop, cursor => .ok { indent, breaks, stop, cursor }
  | fuel + 1, widest, breaks, stop, cursor =>
    let spaces := (cursor.rest.takeWhile (· == ' ')).length
    let count := if indent = 0 then spaces else min spaces (indent - cursor.mark.column)
    let cursor := cursor.skip count
    let widest := max widest cursor.mark.column
    if (indent = 0 ∨ cursor.mark.column < indent) ∧ cursor.looksAt '\t' then
      cursor.fault .tabIndentation
    else match cursor.rest with
      | c :: _ =>
        if isBreak c then
          let after := cursor.skipBreak
          between parent indent fuel widest (breaks ++ [breakText c]) after.mark after
        else .ok { indent := settle widest, breaks, stop, cursor }
      | [] => .ok { indent := settle widest, breaks, stop, cursor }
where
  settle (widest : Nat) : Nat :=
    if indent = 0 then max widest (max (parent + 1).toNat 1) else indent

/-- A block scalar as far as it is read: its text, the line break after the last line, and
what follows that line. -/
structure Reading where
  text : List Char
  lineBreak : List Char
  startsBlank : Bool
  next : Between

/-- The lines of a block scalar. In a folded one the break between two lines that start with
no blank becomes a space, or nothing if empty lines stand between them. -/
def scan (folded : Bool) (parent : Int) : Nat → Reading → Except Fault Reading
  | 0, reading => .ok reading
  | fuel + 1, reading =>
    let cursor := reading.next.cursor
    if cursor.mark.column ≠ reading.next.indent ∨ cursor.rest.isEmpty then .ok reading
    else do
      let startsBlank := cursor.rest.head?.any isSpaceOrTab
      let lineBreak :=
        if folded && reading.lineBreak == ['\n'] && !reading.startsBlank && !startsBlank then
          (if reading.next.breaks.isEmpty then [' '] else [])
        else reading.lineBreak
      let (line, after) := cursor.span (!isBreak ·)
      let next ← between parent reading.next.indent (after.rest.length + 1) 0 []
        after.skipBreak.mark after.skipBreak
      scan folded parent fuel
        { text := reading.text ++ lineBreak ++ reading.next.breaks ++ line
          lineBreak := (after.rest.head?.map breakText).toList, startsBlank, next }

/-- The block scalar whose indicator is here, its text and where it stops. -/
def read (folded : Bool) (parent : Int) (cursor : Cursor) :
    Except Fault (List Char × Mark × Cursor) := do
  let (chomping, increment, after) ← readHeader (cursor.skip 1)
  let after := (after.skipWhile isSpaceOrTab).skipComment
  if !atBreak after.rest then after.fault .headerEnd
  else
    let after := after.skipBreak
    let indent := if increment = 0 then 0 else (max parent 0).toNat + increment
    let next ← between parent indent (after.rest.length + 1) 0 [] after.mark after
    let reading ← scan folded parent (after.rest.length + 1)
      { text := [], lineBreak := [], startsBlank := false, next }
    let tail := match chomping with
      | .strip => []
      | .clip => reading.lineBreak
      | .keep => reading.lineBreak ++ reading.next.breaks
    .ok (reading.text ++ tail, reading.next.stop, reading.next.cursor)

end BlockScalar

end FolderBackup.Yaml
