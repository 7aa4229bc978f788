import FolderBackup.Shell.Classes

/-! Patterns.

A pattern matches texts byte by byte. A question mark matches one byte, an asterisk any number of
bytes, and brackets one byte of a set. A backslash makes what comes after it stand for itself, and
that is how quoted parts of a word get into a pattern. Where alternatives are allowed, a sign and
parentheses after it match one or more of the patterns between them. -/
namespace FolderBackup.Shell

/-- A pattern as it is written. -/
abbrev Pattern := List Char

namespace Pattern

/-- How patterns are matched. -/
structure Manner where
  /-- Whether letters are the same in upper and lower case. -/
  folds : Bool
  /-- Whether there are alternatives. -/
  extended : Bool
  deriving DecidableEq, Repr

/-- The usual manner. -/
def Manner.usual : Manner := { folds := false, extended := false }

def Manner.fold (manner : Manner) (c : Char) : Char :=
  if manner.folds then c.toLower else c

/-- A text that stands for itself. -/
def literal (text : List Char) : Pattern := text.flatMap fun c => ['\\', c]

/-! ### Sets -/

/-- What stands before a sign and a closing bracket, and what comes after them. -/
def upTo (sign : Char) : List Char → List Char → Option (List Char × Pattern)
  | _, [] => none
  | done, c :: rest =>
    if c = sign ∧ rest.head? = some ']' then some (done.reverse, rest.tail)
    else upTo sign (c :: done) rest

/-- The character that a name in brackets and dots stands for, and what comes after it. -/
def symbol (rest : Pattern) : Option Char × Pattern :=
  match upTo '.' [] rest with
  | some (name, rest) => (Classes.symbol? name, rest)
  | none => (none, [])

/-- What comes after the bracket that closes a set of which a member has matched; `none` if there
is no such bracket, and `some none` if nothing can match. `opened` is the sign of an inner bracket
that is open. -/
def afterSet : Nat → Nat → Option Char → Option Char → Pattern → Option (Option Pattern)
  | 0, _, _, _, _ => none
  | _, _, _, _, [] => none
  | fuel + 1, depth, opened, before, c :: rest =>
    let sign := rest.head?
    if c = '[' ∧ (sign = some '=' ∨ sign = some ':' ∨ sign = some '.') then
      match rest.tail with
      | [] => none
      | d :: more => afterSet fuel (depth + 1) sign (some d) (d :: more)
    else if c = ']' ∧ 0 < depth ∧ opened.isSome ∧ opened = before then
      afterSet fuel (depth - 1) none (some c) rest
    else if c = ']' ∧ opened ≠ some '.' then some (some rest)
    else if c = '\\' then
      match rest with
      | [] => some none
      | _ :: rest => afterSet fuel depth opened (some c) rest
    else afterSet fuel depth opened (some c) rest

/-- What comes after a set if it holds a byte. A set without an end is a bracket that stands for
itself; `saved` is what comes after that. -/
structure SetTest where
  manner : Manner
  byte : Char
  negated : Bool
  saved : Pattern

namespace SetTest

def literal (test : SetTest) : Option Pattern :=
  if test.byte = '[' then some test.saved else none

/-- After a member that matches. -/
def found (test : SetTest) (rest : Pattern) : Option Pattern :=
  match afterSet (rest.length + 1) 0 none rest.head? rest with
  | none => test.literal
  | some after => if test.negated then none else after

/-- After the end of a set without a member that matches. -/
def missed (test : SetTest) (rest : Pattern) : Option Pattern :=
  if test.negated then some rest else none

/-- What comes after the members from `c` on. -/
def members (test : SetTest) : Nat → Char → Pattern → Option Pattern
  | 0, _, _ => none
  | fuel + 1, c, rest =>
    let fold := test.manner.fold
    let byte := fold test.byte
    let onwards (rest : Pattern) : Option Pattern :=
      match rest with
      | [] => test.literal
      | c :: rest => members test fuel (fold c) rest
    -- the rest of the set from a character that may start a range
    let ranged (low : Option Char) (rest : Pattern) : Option Pattern :=
      match rest with
      | [] => test.literal
      | c :: more =>
        if c = '-' ∧ more.head? ≠ some ']' then
          let bound? : Option (Option Char × Pattern) := match more with
            | [] => none
            | '\\' :: [] => none
            | '\\' :: d :: rest => some (some d, rest)
            | '[' :: '.' :: rest => some (symbol rest)
            | d :: rest => some (some d, rest)
          match bound? with
          | none => none
          | some (high, rest) =>
            let holds : Bool := match low, high.map fold with
              | some low, some high => low ≤ byte && byte ≤ high
              | _, _ => false
            match rest with
            | [] => test.literal
            | c :: after =>
              if holds then test.found rest
              else if c = ']' then test.missed after
              else members test fuel (fold c) after
        else if low = some byte then test.found rest
        else if c = ']' then test.missed more
        else members test fuel (fold c) more
    match c, rest with
    | '[', '=' :: d :: '=' :: ']' :: rest =>
      if byte = fold d then test.found rest else onwards rest
    | '[', ':' :: more =>
      match upTo ':' [] more with
      | some (name, rest) =>
        if ((Classes.named? (String.ofList name)).map (· test.byte)).getD false then test.found rest
        else match rest with
          | ']' :: rest => test.missed rest
          | rest => onwards rest
      | none => onwards (':' :: more)
    | '[', '.' :: more =>
      let (low, rest) := symbol more
      ranged (low.map fold) rest
    | '\\', [] => none
    | '\\', d :: rest => ranged (some (fold d)) rest
    | c, rest => ranged (some (fold c)) rest

end SetTest

/-- What comes after a set if it holds a byte; `rest` is what comes after its opening bracket. -/
def set? (manner : Manner) (rest : Pattern) (byte : Char) : Option Pattern :=
  let negated := rest.head? = some '!' ∨ rest.head? = some '^'
  let test : SetTest := { manner, byte, negated, saved := rest }
  match if negated then rest.tail else rest with
  | [] => test.literal
  | c :: more => test.members (rest.length + 1) c more

/-! ### Alternatives -/

/-- The alternatives up to the closing parenthesis, and what comes after it; none if it is
missing. -/
def alternatives? : Nat → Nat → Bool → List Char → Pattern → Option (List Pattern × Pattern)
  | 0, _, _, _, _ => none
  | _, _, _, _, [] => none
  | fuel + 1, depth, inSet, done, c :: rest =>
    if c = '\\' then
      match rest with
      | [] => none
      | d :: rest => alternatives? fuel depth inSet (d :: '\\' :: done) rest
    else if inSet then alternatives? fuel depth (c ≠ ']') (c :: done) rest
    else if c = '[' then
      let isSet := rest.contains ']'
      alternatives? fuel depth isSet (c :: done) rest
    else if c = '(' then alternatives? fuel (depth + 1) false (c :: done) rest
    else if c = ')' then
      match depth with
      | 0 => some ([done.reverse], rest)
      | depth + 1 => alternatives? fuel depth false (c :: done) rest
    else if c = '|' ∧ depth = 0 then
      (alternatives? fuel 0 false [] rest).map fun (more, rest) => (done.reverse :: more, rest)
    else alternatives? fuel depth false (c :: done) rest

/-- Every way to cut a text in two. -/
def cuts (text : List Char) : List (List Char × List Char) :=
  (List.range (text.length + 1)).map text.splitAt

/-! ### Matching -/

/-- Whether a pattern matches a whole text. -/
def matchesFrom (manner : Manner) : Nat → Pattern → List Char → Bool
  | 0, _, _ => false
  | _, [], text => text.isEmpty
  | fuel + 1, c :: rest, text =>
    if manner.extended ∧ rest.head? = some '(' ∧ "+*?@!".contains c then
      match alternatives? (rest.length + 1) 0 false [] rest.tail with
      | none => (c :: rest) == text
      | some (patterns, after) =>
        let one (text : List Char) : Bool := patterns.any (matchesFrom manner fuel · text)
        if c = '!' then
          (cuts text).any fun (front, back) => !one front && matchesFrom manner fuel after back
        else
          ((c = '*' ∨ c = '?') && matchesFrom manner fuel after text) ||
            (cuts text).any fun (front, back) => one front &&
              (matchesFrom manner fuel after back ||
                ((c = '*' ∨ c = '+') && !front.isEmpty &&
                  matchesFrom manner fuel (c :: rest) back))
    else if c = '*' then
      match rest with
      | '*' :: more =>
        if manner.extended ∧ more.head? = some '(' then
          matchesFrom manner fuel rest text ||
            (!text.isEmpty && matchesFrom manner fuel (c :: rest) text.tail)
        else matchesFrom manner fuel rest text
      | rest => matchesFrom manner fuel rest text ||
        (!text.isEmpty && matchesFrom manner fuel (c :: rest) text.tail)
    else match text with
      | [] => false
      | d :: more =>
        if c = '?' then matchesFrom manner fuel rest more
        else if c = '\\' then
          match rest with
          | [] => text == ['\\']
          | e :: rest => manner.fold d == manner.fold e && matchesFrom manner fuel rest more
        else if c = '[' then
          match set? manner rest d with
          | none => false
          | some rest => matchesFrom manner fuel rest more
        else manner.fold d == manner.fold c && matchesFrom manner fuel rest more

/-- Whether a pattern matches a whole text. -/
def accepts (manner : Manner) (pattern : Pattern) (text : List Char) : Bool :=
  matchesFrom manner (pattern.length + text.length + 1) pattern text

/-- Whether a pattern can match more than one text. -/
def isGlob (extended : Bool) : Bool → Pattern → Bool
  | _, [] => false
  | bracket, c :: rest =>
    if c = '?' ∨ c = '*' then true
    else if c = '[' then isGlob extended true rest
    else if c = ']' ∧ bracket then true
    else if c = '/' then isGlob extended false rest
    else if (c = '+' ∨ c = '@' ∨ c = '!') ∧ extended ∧ rest.head? = some '(' then true
    else if c = '\\' then
      match rest with
      | [] => false
      | _ :: rest => isGlob extended bracket rest
    else isGlob extended bracket rest

/-- A pattern as the text it stands for if nothing in it is special. -/
def plainText : Pattern → List Char
  | [] => []
  | '\\' :: c :: rest => c :: plainText rest
  | c :: rest => c :: plainText rest

/-- Whether a pattern matches the name of a file. A name that starts with a dot is matched only by
a pattern that does, unless `hidden` names count as well. -/
def matchesName (manner : Manner) (hidden : Bool) (pattern : Pattern) (name : List Char) : Bool :=
  let dotted := pattern.head? = some '.' ∨ pattern.take 2 = ['\\', '.']
  (name.head? != some '.' || dotted || (hidden && name ≠ ['.'] && name ≠ ['.', '.'])) &&
    accepts manner pattern name

/-! ### Parts of a text that match -/

/-- The first cut of a text in two, of those at some places, that a test takes. -/
def cut? (takes : List Char → List Char → Bool) (text : List Char) (places : List Nat) :
    Option (List Char × List Char) :=
  places.findSome? fun place =>
    let (front, back) := text.splitAt place
    if takes front back then some (front, back) else none

/-- The lengths of the parts of a text that a pattern may match. Without asterisks and alternatives
no part is longer than the pattern. -/
def lengths (pattern : Pattern) (text : List Char) : List Nat :=
  let isBound := !pattern.any fun c => c == '*' || c == '('
  List.range ((if isBound then min pattern.length text.length else text.length) + 1)

/-- The shortest, or longest, start that matches, and what comes after it. -/
def start? (manner : Manner) (longest : Bool) (pattern : Pattern) (text : List Char) :
    Option (List Char × List Char) :=
  let lengths := lengths pattern text
  cut? (fun front _ => accepts manner pattern front) text
    (if longest then lengths.reverse else lengths)

/-- What comes before the shortest, or longest, end that matches, and that end. -/
def end? (manner : Manner) (longest : Bool) (pattern : Pattern) (text : List Char) :
    Option (List Char × List Char) :=
  let lengths := lengths pattern text
  cut? (fun _ back => accepts manner pattern back) text
    ((if longest then lengths.reverse else lengths).map (text.length - ·))

/-- The text without the shortest, or longest, start that matches. -/
def withoutStart (manner : Manner) (longest : Bool) (pattern : Pattern) (text : List Char) :
    List Char :=
  ((start? manner longest pattern text).map Prod.snd).getD text

/-- The text without the shortest, or longest, end that matches. -/
def withoutEnd (manner : Manner) (longest : Bool) (pattern : Pattern) (text : List Char) :
    List Char :=
  ((end? manner longest pattern text).map Prod.fst).getD text

/-- The first part that matches, the longest of those that start there, with what comes before and
after it. -/
def firstPart? (manner : Manner) (pattern : Pattern) :
    List Char → List Char → Option (List Char × List Char × List Char)
  | before, [] =>
    (start? manner true pattern []).map fun (part, after) => (before.reverse, part, after)
  | before, c :: rest =>
    match start? manner true pattern (c :: rest) with
    | some (part, after) => some (before.reverse, part, after)
    | none => firstPart? manner pattern (c :: before) rest

end Pattern

end FolderBackup.Shell
