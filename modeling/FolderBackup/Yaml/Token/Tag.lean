import FolderBackup.Yaml.Token.Scalar

/-! Anchors, tags and directives.

A tag is a handle, such as one exclamation mark, and a rest; a tag in angle brackets has no
handle, and a lone exclamation mark is a rest without a handle. A directive names the
version of the language or says what a handle stands for. -/
namespace FolderBackup.Yaml

/-! ### Anchors -/

/-- The name after an ampersand or an asterisk. -/
def readAnchorName (cursor : Cursor) : Except Fault (String × Cursor) :=
  let (name, after) := (cursor.skip 1).span isWordChar
  let ends := atBlank after.rest ||
    after.rest.head?.any (['?', ':', ',', ']', '\x7d', '%', '@', '\x60'].contains ·)
  if name.isEmpty || !ends then after.fault .anchorName else .ok (String.ofList name, after)

/-! ### Tags -/

/-- The octet written as a percent sign and two hexadecimal digits. -/
def readOctet (cursor : Cursor) : Except Fault (Nat × Cursor) :=
  match cursor.rest with
  | '%' :: a :: b :: _ => match QuotedScalar.hexDigit? a, QuotedScalar.hexDigit? b with
    | some high, some low => .ok (16 * high + low, cursor.skip 3)
    | _, _ => cursor.fault .uriEscape
  | _ => cursor.fault .uriEscape

/-- The octets that continue a character. -/
def readTrailingOctets : Nat → Cursor → Except Fault (Octets × Cursor)
  | 0, cursor => .ok ([], cursor)
  | count + 1, cursor => do
    let (octet, after) ← readOctet cursor
    if octet / 64 ≠ 2 then cursor.fault .uriTrailingOctet
    else
      (readTrailingOctets count after).map fun (octets, after) => (UInt8.ofNat octet :: octets, after)

/-- One to four octets, as many as the first one asks for. Only their form is looked at. -/
def readOctets (cursor : Cursor) : Except Fault (Octets × Cursor) := do
  let (octet, after) ← readOctet cursor
  let trailing :=
    if octet < 0x80 then some 0
    else if octet / 32 = 6 then some 1
    else if octet / 16 = 14 then some 2
    else if octet / 8 = 30 then some 3
    else none
  match trailing with
  | none => cursor.fault .uriLeadingOctet
  | some count =>
    (readTrailingOctets count after).map fun (octets, after) => (UInt8.ofNat octet :: octets, after)

/-- The characters of a tag; commas and square brackets only where the tag has an end of its
own. -/
def isUriChar (verbatim : Bool) (c : Char) : Bool :=
  isWordChar c ||
    [';', '/', '?', ':', '@', '&', '=', '+', '$', '.', '%', '!', '~', '*', '\'', '(', ')'
      ].contains c ||
    (verbatim && [',', '[', ']'].contains c)

/-- The run of tag characters that starts here, with its escapes resolved. -/
def readUriChars (verbatim : Bool) : Nat → Cursor → Except Fault (Octets × Cursor)
  | 0, cursor => .ok ([], cursor)
  | fuel + 1, cursor =>
    match cursor.rest with
    | [] => .ok ([], cursor)
    | c :: _ =>
      if !isUriChar verbatim c then .ok ([], cursor)
      else if c == '%' then do
        let (octets, after) ← readOctets cursor
        (readUriChars verbatim fuel after).map fun (more, after) => (octets ++ more, after)
      else
        (readUriChars verbatim fuel (cursor.skip 1)).map fun (more, after) =>
          (UInt8.ofNat c.toNat :: more, after)

/-- The octets of some characters of one octet each. -/
def octetsOf (text : List Char) : Octets :=
  text.map fun c => UInt8.ofNat c.toNat

/-- A tag's octets after what was already read of it; together they are not empty. An octet of
zero ends the tag, and what follows it is dropped. -/
def readUri (verbatim : Bool) (head : List Char) (cursor : Cursor) :
    Except Fault (Octets × Cursor) := do
  let (octets, after) ← readUriChars verbatim cursor.rest.length cursor
  if head.isEmpty && octets.isEmpty then after.fault .tagUri
  else .ok ((octetsOf (head.drop 1) ++ octets).takeWhile (· ≠ 0), after)

/-- An exclamation mark, word characters, and a second exclamation mark if one follows. -/
def readHandle (directive : Bool) (cursor : Cursor) : Except Fault (List Char × Cursor) :=
  if !cursor.looksAt '!' then cursor.fault .tagHandle
  else
    let (word, after) := (cursor.skip 1).span isWordChar
    if after.looksAt '!' then .ok ('!' :: (word ++ ['!']), after.skip 1)
    else if directive && !word.isEmpty then after.fault .tagHandle
    else .ok ('!' :: word, after)

/-- Whether a handle is closed by a second exclamation mark. -/
def isClosedHandle (handle : List Char) : Bool :=
  handle.length > 1 && handle.getLast? == some '!'

/-- The handle and the rest of the tag that starts here. -/
def readTagParts (cursor : Cursor) : Except Fault (List Char × Octets × Cursor) :=
  if cursor.looksPast '<' then do
    let (rest, after) ← readUri true [] (cursor.skip 2)
    if after.looksAt '>' then .ok ([], rest, after.skip 1) else after.fault .verbatimTagEnd
  else do
    let (handle, after) ← readHandle false cursor
    if isClosedHandle handle then
      let (rest, after) ← readUri false [] after
      .ok (handle, rest, after)
    else
      let (rest, after) ← readUri false handle after
      if rest.isEmpty then .ok ([], octetsOf ['!'], after) else .ok (['!'], rest, after)

/-- The tag that starts here. -/
def readTag (flow : Bool) (cursor : Cursor) : Except Fault (Token.Kind × Cursor) := do
  let (handle, rest, after) ← readTagParts cursor
  if atBlank after.rest || (flow && after.looksAt ',') then
    .ok (.tag (String.ofList handle) rest, after)
  else after.fault .tagEnd

/-! ### Directives -/

/-- A run of at most nine digits. -/
def readVersionNumber (cursor : Cursor) : Except Fault (Nat × Cursor) :=
  let (digits, after) := cursor.span Char.isDigit
  if digits.length > 9 then (cursor.skip 9).fault .longVersionNumber
  else if digits.isEmpty then after.fault .versionNumber
  else .ok (digits.foldl (fun n c => 10 * n + (c.toNat - '0'.toNat)) 0, after)

def readVersion (cursor : Cursor) : Except Fault (Token.Kind × Cursor) := do
  let (major, after) ← readVersionNumber (cursor.skipWhile isSpaceOrTab)
  if !after.looksAt '.' then after.fault .versionNumber
  else
    let (minor, after) ← readVersionNumber (after.skip 1)
    .ok (.version major minor, after)

def readTagDirective (cursor : Cursor) : Except Fault (Token.Kind × Cursor) := do
  let (handle, after) ← readHandle true (cursor.skipWhile isSpaceOrTab)
  if !after.rest.head?.any isSpaceOrTab then after.fault .tagWhitespace
  else
    let (start, after) ← readUri true [] (after.skipWhile isSpaceOrTab)
    if atBlank after.rest then
      .ok (.tagDirective (String.ofList handle) start, after)
    else after.fault .tagEnd

/-- The directive whose percent sign is here, the place where it stops, and the next line. -/
def readDirective (cursor : Cursor) : Except Fault (Token.Kind × Mark × Cursor) := do
  let (name, after) := (cursor.skip 1).span isWordChar
  if name.isEmpty then after.fault .directiveName
  else if !atBlank after.rest then after.fault .directiveNameEnd
  else
    let (kind, after) ←
      if name = "YAML".toList then readVersion after
      else if name = "TAG".toList then readTagDirective after
      else after.fault .unknownDirective
    let stop := after.mark
    let after := (after.skipWhile isSpaceOrTab).skipComment
    if atBreak after.rest then .ok (kind, stop, after.skipBreak) else after.fault .directiveEnd

end FolderBackup.Yaml
