import FolderBackup.Shell.Classes

/-! Regular expressions.

An expression matches at the first place it can, and there as much as it can. The parts of the text
that its groups matched are kept by their numbers. -/
namespace FolderBackup.Shell

/-- A regular expression. -/
inductive Regex where
  | nothing
  | one (holds : Char → Bool)
  | start
  | finish
  /-- The edge of a word, or a place that is none. -/
  | edge (isEdge : Bool)
  | wordStart
  | wordEnd
  | both (first second : Regex)
  | either (first second : Regex)
  | repeated (body : Regex) (least : Nat) (most : Option Nat)
  | group (number : Nat) (body : Regex)
  /-- What a group matched, once more. -/
  | again (number : Nat)

namespace Regex

/-! ### Reading -/

/-- What comes after the part of an expression that was read, and the number of groups so far. -/
structure Rest where
  text : List Char
  groups : Nat

/-- The items of a set up to its closing bracket. -/
def members (fold : Char → Char) : Nat → Bool → List Char → Option ((Char → Bool) × List Char)
  | 0, _, _ => none
  | _, _, [] => none
  | fuel + 1, first, c :: rest =>
    if c = ']' ∧ !first then some (fun _ => false, rest)
    else
      let named (sign : Char) : Option (List Char × List Char) :=
        if c = '[' ∧ rest.head? = some sign then close sign [] rest.tail else none
      let joining (holds : Char → Bool) (rest : List Char) : Option ((Char → Bool) × List Char) :=
        (members fold fuel false rest).map fun (more, rest) => (fun d => holds d || more d, rest)
      match named ':', named '=' with
      | some (name, rest), _ => do
        let holds ← Classes.named? (String.ofList name)
        joining (fun d => holds d || holds (fold d)) rest
      | none, some (name, rest) => do
        let d ← Classes.symbol? name
        joining (fun e => fold e == fold d) rest
      | none, none => do
        let (low, rest) ← point (c :: rest)
        match rest with
        | '-' :: next :: more =>
          if next = ']' then joining (fun d => fold d == fold low) rest
          else
            let (high, rest) ← point (next :: more)
            if high < low then none
            else joining (fun d => (low ≤ d && d ≤ high) || (low ≤ fold d && fold d ≤ high)) rest
        | rest => joining (fun d => fold d == fold low) rest
where
  /-- What stands before a sign and a closing bracket, and what comes after them. -/
  close (sign : Char) : List Char → List Char → Option (List Char × List Char)
    | _, [] => none
    | done, c :: rest =>
      if c = sign ∧ rest.head? = some ']' then some (done.reverse, rest.tail)
      else close sign (c :: done) rest
  /-- A character of a set, and what comes after it. -/
  point (text : List Char) : Option (Char × List Char) :=
    match text with
    | '[' :: '.' :: rest => do
      let (name, rest) ← close '.' [] rest
      let c ← Classes.symbol? name
      return (c, rest)
    | c :: rest => some (c, rest)
    | [] => none

/-- A set after its opening bracket. -/
def set? (fold : Char → Char) (text : List Char) : Option (Regex × List Char) :=
  let negated := text.head? = some '^'
  let text := if negated then text.tail else text
  (members fold (text.length + 1) true text).map fun (holds, rest) =>
    (.one fun c => holds c != negated, rest)

/-- The bounds of a repetition between braces, and what comes after it. -/
def bounds? (text : List Char) : Option (Nat × Option Nat × List Char) :=
  let low := text.takeWhile Char.isDigit
  match text.drop low.length with
  | '\x7d' :: rest =>
    if low.isEmpty then none else some (valueOf 10 low, some (valueOf 10 low), rest)
  | ',' :: rest =>
    let high := rest.takeWhile Char.isDigit
    match rest.drop high.length with
    | '\x7d' :: rest =>
      let least := valueOf 10 low
      if high.isEmpty then some (least, none, rest)
      else if valueOf 10 high < least then none
      else some (least, some (valueOf 10 high), rest)
    | _ => none
  | _ => none

/-- An expression with the repetitions that follow it. -/
def suffixed : Nat → Regex → Rest → Option (Regex × Rest)
  | 0, _, _ => none
  | fuel + 1, body, rest =>
    match rest.text with
    | '*' :: more => suffixed fuel (.repeated body 0 none) { rest with text := more }
    | '+' :: more => suffixed fuel (.repeated body 1 none) { rest with text := more }
    | '?' :: more => suffixed fuel (.repeated body 0 (some 1)) { rest with text := more }
    | '\x7b' :: more => do
      let (least, most, more) ← bounds? more
      suffixed fuel (.repeated body least most) { rest with text := more }
    | _ => some (body, rest)

mutual

/-- Alternatives. -/
def alternatives (fold : Char → Char) : Nat → Nat → Rest → Option (Regex × Rest)
  | 0, _, _ => none
  | fuel + 1, depth, rest => do
    let (first, rest) ← sequence fold fuel depth .nothing rest
    match rest.text with
    | '|' :: more => do
      let (second, rest) ← alternatives fold fuel depth { rest with text := more }
      return (.either first second, rest)
    | _ => return (first, rest)

/-- Expressions one after the other, after one that is known. -/
def sequence (fold : Char → Char) : Nat → Nat → Regex → Rest → Option (Regex × Rest)
  | 0, _, _, _ => none
  | fuel + 1, depth, known, rest => do
    let suffixing (body : Regex) (rest : Rest) : Option (Regex × Rest) := do
      let (body, rest) ← suffixed (rest.text.length + 1) body rest
      sequence fold fuel depth (.both known body) rest
    match rest.text with
    | [] => return (known, rest)
    | c :: more =>
      let after : Rest := { rest with text := more }
      if c = '|' ∨ (c = ')' ∧ 0 < depth) then return (known, rest)
      else if c = '(' then
        let number := rest.groups + 1
        let (body, rest) ← alternatives fold fuel (depth + 1) { text := more, groups := number }
        match rest.text with
        | ')' :: more => suffixing (.group number body) { rest with text := more }
        | _ => none
      else if c = '[' then do
        let (set, more) ← set? fold more
        suffixing set { rest with text := more }
      else if c = '.' then suffixing (.one fun _ => true) after
      else if c = '^' then sequence fold fuel depth (.both known .start) after
      else if c = '$' then sequence fold fuel depth (.both known .finish) after
      else if c = '*' ∨ c = '+' ∨ c = '?' ∨ c = '\x7b' then none
      else if c = '\\' then
        match more with
        | [] => none
        | d :: more =>
          let after : Rest := { rest with text := more }
          if d.isDigit ∧ d ≠ '0' then
            let number := d.toNat - '0'.toNat
            if rest.groups < number then none else suffixing (.again number) after
          else if d = 'w' then suffixing (.one isNameChar) after
          else if d = 'W' then suffixing (.one (!isNameChar ·)) after
          else if d = 's' then suffixing (.one isSpace) after
          else if d = 'S' then suffixing (.one (!isSpace ·)) after
          else if d = 'b' then sequence fold fuel depth (.both known (.edge true)) after
          else if d = 'B' then sequence fold fuel depth (.both known (.edge false)) after
          else if d = '<' then sequence fold fuel depth (.both known .wordStart) after
          else if d = '>' then sequence fold fuel depth (.both known .wordEnd) after
          else if d = '\x60' then sequence fold fuel depth (.both known .start) after
          else if d = '\'' then sequence fold fuel depth (.both known .finish) after
          else suffixing (.one fun e => fold e == fold d) after
      else suffixing (.one fun e => fold e == fold c) after

end

/-- The expression that a text is, and the number of its groups; none if it is none. -/
def ofText? (folds : Bool) (text : List Char) : Option (Regex × Nat) :=
  let fold (c : Char) : Char := if folds then c.toLower else c
  match alternatives fold (4 * text.length + 8) 0 { text, groups := 0 } with
  | some (regex, rest) => if rest.text.isEmpty then some (regex, rest.groups) else none
  | none => none

/-! ### Matching -/

/-- A match so far: its end, and what the groups matched, latest first. -/
structure Found where
  place : Nat
  groups : List (Nat × Nat × Nat)

/-- Whether the character at a place belongs to a word. -/
def inWord (text : Array Char) (place : Nat) : Bool :=
  (text[place]?).any isNameChar

/-- Whether a word goes on before a place. -/
def afterWord (text : Array Char) (place : Nat) : Bool :=
  0 < place && inWord text (place - 1)

/-- The first of every matches that end at the same place. -/
def distinct : List Found → List Found
  | [] => []
  | first :: rest => first :: (distinct rest).filter (·.place ≠ first.place)

/-- The ways to go on with a match, one for each end, the preferred ones first. -/
def matchesFrom (text : Array Char) : Nat → Regex → Found → List Found
  | 0, _, _ => []
  | fuel + 1, regex, found =>
    let when (holds : Bool) : List Found := if holds then [found] else []
    match regex with
    | .nothing => [found]
    | .one holds =>
      match text[found.place]? with
      | some c => if holds c then [{ found with place := found.place + 1 }] else []
      | none => []
    | .start => when (found.place = 0)
    | .finish => when (found.place = text.size)
    | .edge isEdge => when ((afterWord text found.place != inWord text found.place) == isEdge)
    | .wordStart => when (!afterWord text found.place && inWord text found.place)
    | .wordEnd => when (afterWord text found.place && !inWord text found.place)
    | .both first second =>
      distinct ((matchesFrom text fuel first found).flatMap (matchesFrom text fuel second))
    | .either first second =>
      (distinct (matchesFrom text fuel first found ++ matchesFrom text fuel second found)).mergeSort
        fun a b => decide (b.place ≤ a.place)
    | .group number body =>
      (matchesFrom text fuel body found).map fun after =>
        { after with groups := (number, found.place, after.place) :: after.groups }
    | .again number =>
      match found.groups.find? (·.1 == number) with
      | none => []
      | some (_, first, last) =>
        let part := (text.extract first last).toList
        let here := (text.extract found.place (found.place + part.length)).toList
        if here = part then [{ found with place := found.place + part.length }] else []
    | .repeated body least most =>
      let rounds : List Found :=
        if most = some 0 then []
        else (matchesFrom text fuel body found).flatMap fun after =>
          if after.place = found.place ∧ least = 0 then []
          else matchesFrom text fuel
            (.repeated body (least - 1) (most.map (· - 1))) after
      distinct (if least = 0 then rounds ++ [found] else rounds)

/-- The longest of some matches, the first one of those. -/
def longest : List Found → Option Found
  | [] => none
  | first :: rest =>
    match longest rest with
    | some other => if first.place < other.place then some other else some first
    | none => some first

/-- The parts of a text that the expression and its groups match, if it matches anywhere. -/
def parts? (regex : Regex) (groups : Nat) (text : List Char) : Option (List (List Char)) :=
  let all := text.toArray
  let fuel := 64 * (text.length + 4)
  (List.range (text.length + 1)).findSome? fun place =>
    (longest (matchesFrom all fuel regex { place, groups := [] })).map fun found =>
      (all.extract place found.place).toList :: (List.range groups).map fun index =>
        match found.groups.find? (·.1 == index + 1) with
        | some (_, first, last) => (all.extract first last).toList
        | none => []

end Regex

end FolderBackup.Shell
