import FolderBackup.Shell.Command

/-! Parameters.

Between braces after a dollar sign stands a parameter: a name or a sign, and what is made of its
value. -/
namespace FolderBackup.Shell

/-- What is made of the value of a parameter. -/
inductive Parameter.Use where
  | plain
  | length
  /-- Another text instead: a minus sign if there is no value, an equals sign if it is given to the
  parameter too, a question mark if it is complained about, a plus sign if there is a value. -/
  | instead (sign : Char) (nullToo : Bool) (word : Raw)
  /-- A part of it, from a place on. -/
  | part (range : Raw)
  /-- Without a start or an end that matches a pattern. -/
  | without (fromEnd longest : Bool) (pattern : Raw)
  /-- With what matches a pattern replaced. -/
  | replaced (word : Raw)
  /-- With letters in upper or lower case. -/
  | letters (sign : Char) (every : Bool) (pattern : Raw)
  /-- Something told about it. -/
  | told (letter : Char)
  /-- Something that is not known; only a parameter without a value bears it. -/
  | unknown
  /-- The names that start with its name. -/
  | names (starred : Bool)
  /-- The keys it has texts under. -/
  | keys (starred : Bool)
  deriving DecidableEq, Repr

/-- A parameter and its use. -/
structure Parameter where
  /-- Whether it only names the parameter that is meant. -/
  indirect : Bool
  name : String
  subscript : Option Raw
  use : Parameter.Use
  deriving DecidableEq, Repr

namespace Parameter

/-- The characters that end a name. -/
def endsName (c : Char) : Bool := "#%^,~:-=?+/@\x7d".contains c

/-- The name at the start of a text, with what stands in brackets after it. -/
def nameOf : Nat → Raw → Raw
  | 0, _ => []
  | _, [] => []
  | fuel + 1, c :: rest =>
    if endsName c then []
    else if c = '[' then
      match Assignment.subscript? (rest.length + 1) 0 none [] rest with
      | some (subscript, after) => c :: (subscript ++ ']' :: nameOf fuel after)
      | none => c :: nameOf fuel rest
    else c :: nameOf fuel rest

/-- The signs that may be a name after an exclamation mark. -/
def isIndirectSign (c : Char) : Bool := c == '#' || c == '?' || c == '@' || c == '*'

/-- The name at the start of a parameter, which may be a sign. -/
def nameAt (text : Raw) : Raw :=
  let name := nameOf text.length text
  match text.drop name.length with
  | c :: rest =>
    if (name.isEmpty && (c == '-' || c == '?' || c == '@' || c == '#')) ||
        (name == ['!'] && isIndirectSign c) then
      name ++ [c] ++ nameOf rest.length rest
    else name
  | [] => name

/-- Whether a name is one character that is no letter. -/
def isSign (name : Raw) : Bool :=
  match name with
  | [c] => isSpecial c
  | _ => false

/-- A name and what stands in brackets after it; none if it cannot name anything. -/
def target? (name : Raw) : Option (String × Option Raw) :=
  if isSign name || isDigits name then some (String.ofList name, none)
  else match Assignment.reference? name with
    | some (name, subscript, []) => some (name, subscript)
    | _ => none

/-- What is made of a value, by what comes after the name; none if that makes no sense. -/
def useOf? (rest : Raw) : Option Use :=
  match rest with
  | [] => some .plain
  | ':' :: [] => none
  | ':' :: c :: word =>
    if c = '-' ∨ c = '=' ∨ c = '?' ∨ c = '+' then some (.instead c true word)
    else some (.part (c :: word))
  | '/' :: word => some (.replaced word)
  | ['@', letter] => some (if "QEPAKakuUL".contains letter then .told letter else .unknown)
  | '@' :: _ => some .unknown
  | c :: word =>
    if c = '-' ∨ c = '=' ∨ c = '?' ∨ c = '+' then some (.instead c false word)
    else if c = '#' ∨ c = '%' then
      if word.head? = some c then some (.without (c == '%') true word.tail)
      else some (.without (c == '%') false word)
    else if c = '^' ∨ c = ',' ∨ c = '~' then
      if word.head? = some c then some (.letters c true word.tail)
      else some (.letters c false word)
    else none

/-- The parameter that stands between braces; none if nothing can. -/
def ofRaw? (inside : Raw) : Option Parameter :=
  let name := nameAt inside
  let rest := inside.drop name.length
  -- the sign after a number sign, whose length is asked for
  let counted : Option Raw := match name, rest with
    | ['#'], [c] => if c = '-' ∨ c = '?' ∨ c = '#' ∨ c = '@' then some [c] else none
    | '#' :: c :: more, [] => some (c :: more)
    | _, _ => none
  match counted with
  | some counted => (target? counted).map fun (name, subscript) =>
      { indirect := false, name, subscript, use := .length }
  | none =>
    match name, rest with
    | ['#'], [c] =>
      if c = '%' ∨ c = ':' ∨ c = '=' ∨ c = '+' ∨ c = '/' then none
      else (useOf? rest).map fun use => { indirect := false, name := "#", subscript := none, use }
    | '!' :: c :: more, rest =>
      if !(isNameStart c || c.isDigit || isIndirectSign c) then none
      else if isNameStart c && (rest = ['@'] || (rest = [] && more.getLast? = some '*')) then
        let start := if rest = [] then (c :: more).dropLast else c :: more
        if isName start then
          some { indirect := false, name := String.ofList start, subscript := none
                 use := .names (rest == []) }
        else none
      else match target? (c :: more), rest with
        | some (name, some subscript), [] =>
          if subscript = ['@'] ∨ subscript = ['*'] then
            some { indirect := false, name, subscript := some subscript
                   use := .keys (subscript == ['*']) }
          else some { indirect := true, name, subscript := some subscript, use := .plain }
        | some (name, subscript), rest =>
          (useOf? rest).map fun use => { indirect := true, name, subscript, use }
        | none, _ => none
    | name, rest => do
      let (name, subscript) ← target? name
      let use ← useOf? rest
      return { indirect := false, name, subscript, use }

end Parameter

end FolderBackup.Shell
