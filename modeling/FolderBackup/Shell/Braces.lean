import FolderBackup.Shell.Enclosed

/-! Braces.

A word with alternatives in braces stands for several words, one for each alternative. Instead of
alternatives there may be the ends of a range of numbers or letters, and a step. Braces that hold
neither, and those in quotes, stand for themselves. -/
namespace FolderBackup.Shell.Braces

/-! ### Signs -/

/-- The state of a search for a sign. -/
structure Search where
  /-- How many braces are open. -/
  level : Nat
  quote : Option Char
  /-- Whether what was read makes the braces around it meaningful. -/
  parted : Bool

def isBlankHere (c : Option Char) : Bool :=
  c.isNone || c == some ' ' || c == some '\t' || c == some '\n'

/-- What stands before a sign that is in no quotes or inner braces, latest first, and from the sign
on; nothing if there is none. -/
def seek (sign : Char) : Nat → Search → List Char → List Char → List Char × List Char
  | 0, _, done, _ => (done, [])
  | _, _, done, [] => (done, [])
  | fuel + 1, search, done, c :: rest =>
    let onward (search : Search) : List Char × List Char :=
      seek sign fuel search (c :: done) rest
    let quoted := search.quote.isSome
    let substitutes := (c = '$' ∨ (!quoted ∧ (c = '<' ∨ c = '>'))) ∧ rest.head? = some '('
    let command (_ : Unit) : List Char × List Char :=
      match Enclosed.value? false quoted '(' rest.tail with
      | some (inner, back) =>
        seek sign fuel search (')' :: inner.reverse ++ ('(' :: c :: done)) back
      | none => (rest.reverse ++ (c :: done), [])
    if c = '\\' ∧ search.quote ≠ some '\'' then
      match rest with
      | [] => (c :: done, [])
      | d :: more => seek sign fuel search (d :: c :: done) more
    else if c = '$' ∧ rest.head? = some '\x7b' ∧ search.quote ≠ some '\'' then
      seek sign fuel { search with level := search.level + if quoted then 0 else 1 }
        ('\x7b' :: c :: done) rest.tail
    else if quoted then
      if some c = search.quote then onward { search with quote := none }
      else if search.quote = some '"' ∧ substitutes then command ()
      else onward search
    else if c = '"' ∨ c = '\'' ∨ c = '\x60' then onward { search with quote := some c }
    else if substitutes then command ()
    else
      let alone := c = '\x7b' ∧ isBlankHere done.head? ∧
        (isBlankHere rest.head? ∨ rest.head? = some '\x7d')
      if c = sign ∧ search.level = 0 ∧ search.parted then
        if alone then onward search else (done, c :: rest)
      else if c = '\x7b' then onward { search with level := search.level + 1 }
      else if c = '\x7d' ∧ 0 < search.level then onward { search with level := search.level - 1 }
      else
        let range := c = '.' ∧ rest.head? = some '.' ∧ rest.tail.head? ≠ some sign
        let parts := sign = '\x7d' ∧ search.level = 0 ∧ (c = ',' ∨ range)
        onward { search with parted := search.parted || parts }

/-- What stands before a sign, and from it on; none if it is missing. -/
def before? (sign : Char) (done text : List Char) : Option (List Char × List Char) :=
  match seek sign (text.length + 1) { level := 0, quote := none, parted := sign ≠ '\x7d' }
      done text with
  | (_, []) => none
  | found => some found

/-- What stands before the first brace that opens something, latest first, and what comes after
it. -/
def opening? : Nat → List Char → List Char → Option (List Char × List Char)
  | 0, _, _ => none
  | fuel + 1, done, text =>
    match before? '\x7b' done text with
    | none => none
    | some (done, rest) =>
      if (before? '\x7d' [] rest.tail).isSome then some (done, rest.tail)
      else opening? fuel ('\x7b' :: done) rest.tail

/-- Whether there is a comma without a backslash in front of it. -/
def hasComma : List Char → Bool
  | [] => false
  | '\\' :: _ :: rest => hasComma rest
  | c :: rest => c == ',' || hasComma rest

/-! ### Ranges -/

/-- What stands before two dots, and what comes after them. -/
def cut? : List Char → List Char → Option (List Char × List Char)
  | _, [] => none
  | done, '.' :: '.' :: rest => some (done.reverse, rest)
  | done, c :: rest => cut? (c :: done) rest

/-- The numbers from one to another. -/
def numbers (first last step : Int) : List Int :=
  let step := step.natAbs.max 1
  let count := (last - first).natAbs / step + 1
  (List.range count).map fun (n : Nat) =>
    if last < first then first - (n * step : Nat) else first + (n * step : Nat)

/-- A number with zeros up to a width, of which the sign is a part. -/
def padded (width : Nat) (n : Int) : List Char :=
  let digits := (toString n.natAbs).toList
  let sign := if n < 0 then ['-'] else []
  sign ++ List.replicate (width - digits.length - sign.length) '0' ++ digits

/-- Whether a number is written with a zero in front of it. -/
def isPadded (text : List Char) : Bool :=
  match text with
  | '-' :: '0' :: _ :: _ => true
  | '0' :: _ :: _ => true
  | _ => false

/-- The step of a range, of which the dots are still there; one if nothing is there. -/
def step? (text : List Char) : Option Int :=
  match text with
  | [] => some 1
  | '.' :: '.' :: c :: rest =>
    match leadingInteger? (c :: rest) with
    | some (n, []) => if minInteger ≤ n ∧ n ≤ maxInteger then some n else none
    | _ => none
  | _ => none

/-- What a range stands for. -/
def range? (text : List Char) : Option (List (List Char)) := do
  let (first, after) ← cut? [] text
  match integer? first, leadingInteger? after with
  | some low, some (high, rest) =>
    if isSpace (after.head?.getD ' ') || high < minInteger || maxInteger < high then none
    else
      let step ← step? rest
      let last := after.take (after.length - rest.length)
      let width := if isPadded first || isPadded last then max first.length last.length else 0
      some ((numbers low high step).map (padded width))
  | none, _ =>
    match first, after with
    | [low], high :: rest =>
      if low.isAlpha && high.isAlpha then
        let step ← step? rest
        some ((numbers low.toNat high.toNat step).map fun n => [Char.ofNat n.toNat])
      else none
    | _, _ => none
  | _, _ => none

/-! ### Words -/

/-- Every text of the first list before every text of the second. -/
def joined (first second : List (List Char)) : List (List Char) :=
  first.flatMap fun front => second.map (front ++ ·)

mutual

/-- The words that a word with braces stands for. -/
def expandWith : Nat → List Char → List (List Char)
  | 0, text => [text]
  | fuel + 1, text =>
    match opening? (text.length + 1) [] text with
    | none => [text]
    | some (before, after) =>
      match before? '\x7d' [] after with
      | none => [text]
      | some (inside, rest) =>
        let inside := inside.reverse
        let after := rest.tail
        let more := if after.isEmpty then [[]] else expandWith fuel after
        let among (middle : List (List Char)) : List (List Char) :=
          joined (joined [before.reverse] middle) more
        if hasComma inside then among (alternatives fuel inside)
        else match range? inside with
          | some texts => among texts
          | none =>
            if after.isEmpty then [text] else among [('\x7b' :: inside) ++ ['\x7d']]

/-- The words that the alternatives of a pair of braces stand for. -/
def alternatives : Nat → List Char → List (List Char)
  | 0, text => [text]
  | fuel + 1, text =>
    match before? ',' [] text with
    | none => expandWith fuel text
    | some (first, rest) => expandWith fuel first.reverse ++ alternatives fuel rest.tail

end

/-- The words that a word with braces stands for. -/
def expand (word : Raw) : List Raw :=
  if word.contains '\x7b' then expandWith (2 * word.length + 4) word else [word]

end FolderBackup.Shell.Braces
