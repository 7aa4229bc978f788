import FolderBackup.Shell.Slot

/-! Expressions over numbers.

An expression is calculated as it is read: a name stands for its variable's text, which is an
expression itself, and an assignment takes place when it is reached. Numbers have 64 bits. Where an
expression goes wrong, what is left of it from the last token on is shown, and there is no value. -/
namespace FolderBackup.Shell.Arithmetic

/-- How what stands between brackets becomes a slot. -/
structure Subscripts where
  /-- The text of an expression, with values put in. -/
  expression : Raw → Action String
  /-- The text of a name, with values put in and quotes left out. -/
  key : Raw → Action String

/-- A token of an expression. -/
inductive Mark where
  | finish
  | number
  | name
  | sign (text : String)
  /-- An operator and an equals sign. -/
  | assigning (operator : String)
  /-- Two plus or minus signs before a name. -/
  | before (up : Bool)
  /-- Two plus or minus signs after a name. -/
  | after (up : Bool)
  deriving DecidableEq, Repr

/-- An expression being read. -/
structure Scan where
  /-- The name that complaints start with. -/
  command : String
  whole : List Char
  rest : List Char
  /-- What there was from the last token on. -/
  ahead : List Char
  current : Mark
  last : Mark
  /-- The name that was read last, and what stood between brackets after it. -/
  reference : String × Option Raw
  /-- The slot that was looked at last. -/
  slot : Option Slot
  /-- The value of the number or name that was read last. -/
  value : Int
  /-- Whether nothing is looked up or changed: how many parts around this one do not count. -/
  skipping : Nat
  /-- How many variables are being looked up inside each other. -/
  depth : Nat

/-- Calculating, while an expression is read. -/
abbrev Calculation := StateT Scan Action

/-- An expression before it is read. -/
def Scan.ofText (command : String) (text : List Char) (depth : Nat) : Scan :=
  { command, whole := text, rest := text, ahead := text, current := .finish, last := .finish
    reference := ("", none), slot := none, value := 0, skipping := 0, depth }

/-- Complains about the expression, which has no value then. -/
def fail {α : Type} (message : String) : Calculation α := do
  let scan ← get
  let text := String.ofList (scan.whole.dropWhile isBlank)
  let start := if scan.command = "" then "" else scan.command ++ ": "
  Action.complain (start ++ text ++ ": " ++ message ++ " (error token is \"" ++
    String.ofList scan.ahead ++ "\")")
  throw .noValue

/-- A part that may not count. -/
def skipped (skips : Bool) (part : Calculation Int) : Calculation Int := do
  if skips then modify fun scan => { scan with skipping := scan.skipping + 1 }
  let value ← part
  if skips then modify fun scan => { scan with skipping := scan.skipping - 1 }
  return value

/-! ### Numbers -/

/-- What a digit counts where digits may be letters and signs. -/
def digit (base : Nat) (c : Char) : Nat :=
  if c = '@' then 62 else if c = '_' then 63
  else if 36 < base ∧ 'A' ≤ c ∧ c ≤ 'Z' then c.toNat - 'A'.toNat + 36
  else digitValue c

def isDigit (c : Char) : Bool := c.isAlphanum || c == '@' || c == '_'

/-- The number that digits spell after a known base, or the fault in them. -/
def digits (base : Nat) (based : Bool) : Int → List Char → Except String Int
  | value, [] => .ok value
  | value, '#' :: rest =>
    if based then .error "invalid number"
    else if value < 2 ∨ 64 < value then .error "invalid arithmetic base"
    else if !rest.head?.any isDigit then .error "invalid integer constant"
    else plain value.toNat 0 rest
  | value, c :: rest =>
    if base ≤ digit base c then .error "value too great for base"
    else digits base based (wrapped (value * base + digit base c)) rest
where
  plain (base : Nat) : Int → List Char → Except String Int
    | value, [] => .ok value
    | value, c :: rest =>
      if c = '#' then .error "invalid number"
      else if base ≤ digit base c then .error "value too great for base"
      else plain base (wrapped (value * base + digit base c)) rest

/-- The number that a text spells, or the fault in it. -/
def number : List Char → Except String Int
  | ['0'] => .ok 0
  | '0' :: c :: rest =>
    if c = 'x' ∨ c = 'X' then
      digits 16 true 0 rest
    else digits 8 true 0 (c :: rest)
  | text => digits 10 false 0 text

/-- A number to the power of another. -/
def power (base : Int) (exponent : Nat) : Int :=
  go 64 base exponent 1
where
  go : Nat → Int → Nat → Int → Int
    | 0, _, _, result => result
    | fuel + 1, base, exponent, result =>
      if exponent = 0 then result
      else go fuel (wrapped (base * base)) (exponent / 2)
        (if exponent % 2 = 1 then wrapped (result * base) else result)

/-- What two numbers come to; not for a division by zero. -/
def operate (operator : String) (a b : Int) : Int :=
  let bits (f : UInt64 → UInt64 → UInt64) : Int :=
    (f (Int64.ofInt a).toUInt64 (Int64.ofInt b).toUInt64).toInt64.toInt
  let holds (p : Bool) : Int := if p then 1 else 0
  match operator with
  | "*" => wrapped (a * b)
  | "/" => wrapped (a.tdiv b)
  | "%" => a.tmod b
  | "+" => wrapped (a + b)
  | "-" => wrapped (a - b)
  | "<<" => bits fun a b => a <<< (b % 64)
  | ">>" => a.shiftRight (b % 64).toNat
  | "<" => holds (a < b)
  | ">" => holds (b < a)
  | "<=" => holds (a ≤ b)
  | ">=" => holds (b ≤ a)
  | "==" => holds (a == b)
  | "!=" => holds (a != b)
  | "&" => bits (· &&& ·)
  | "^" => bits (· ^^^ ·)
  | "|" => bits (· ||| ·)
  | _ => b

/-- The operators between numbers, those that bind weakest first. -/
def levels : List (List String) :=
  [["|"], ["^"], ["&"], ["==", "!="], ["<=", ">=", "<", ">"], ["<<", ">>"], ["+", "-"],
    ["*", "/", "%"]]

/-! ### Tokens -/

/-- The signs of one character. -/
def isSign (c : Char) : Bool := "=><+-*/%!()&|^~?:,".contains c

/-- The signs of two characters. -/
def pairs : List String := ["==", "!=", ">=", "<=", "<<", ">>", "&&", "||", "**"]

/-- How many variables may be looked up inside each other. -/
def maxDepth : Nat := 1024

variable (subscripts : Subscripts)

mutual

/-- Reads the next token. -/
def next : Nat → Calculation Unit
  | 0 => throw .noValue
  | fuel + 1 => do
    let scan ← get
    match scan.rest.dropWhile isSpace with
    | [] => set { scan with last := scan.current, current := .finish, rest := [] }
    | c :: more =>
      set { scan with ahead := c :: more }
      if isNameStart c then
        match Assignment.reference? (c :: more) with
        | none => fail "bad array subscript"
        | some (name, subscript, rest) =>
          let (name, subscript) := (← getThe Session).ledTo name subscript
          let peeked ← peek fuel rest
          modify fun scan => { scan with rest, reference := (name, subscript) }
          let stepped := scan.last = .before true ∨ scan.last = .before false
          if stepped ∨ peeked ≠ .sign "=" then lookUp fuel name subscript
          else modify fun scan => { scan with value := 0, slot := none }
          modify fun scan => { scan with last := scan.current, current := .name }
      else if c.isDigit then
        let text := (c :: more).takeWhile fun c => isDigit c || c == '#'
        let rest := (c :: more).drop text.length
        match number text with
        | .ok value =>
          modify fun scan => { scan with rest, value, last := scan.current, current := .number }
        | .error message =>
          set { scan with whole := scan.whole.take (scan.whole.length - rest.length), ahead := text }
          fail message
      else
        let take (mark : Mark) (count : Nat) : Calculation Unit :=
          modify fun scan => { scan with
            rest := (c :: more).drop count, last := scan.current, current := mark }
        let two := String.ofList (c :: more.take 1)
        let doubled := (c = '+' ∨ c = '-') ∧ more.head? = some c
        if two = "<<" ∨ two = ">>" then
          if (more.drop 1).head? = some '=' then take (.assigning two) 3 else take (.sign two) 2
        else if pairs.contains two then take (.sign two) 2
        else if doubled ∧ scan.current = .name then take (.after (c == '+')) 2
        else if doubled ∧ scan.current = .number ∧
            (scan.last = .before true ∨ scan.last = .before false) then
          fail (two ++ ": assignment requires lvalue")
        else if doubled then
          if ((more.drop 1).dropWhile isSpace).head?.any isNameStart then
            take (.before (c == '+')) 2
          else take (.sign c.toString) 1
        else if more.head? = some '=' ∧ "*/%+-&^|".contains c then take (.assigning c.toString) 2
        else if isSign c then take (.sign c.toString) 1
        else
          fail <| "syntax error: " ++ match scan.current with
            | .number => "invalid arithmetic operator"
            | .name => "invalid arithmetic operator"
            | _ => "operand expected"

/-- The token after a name that ends before `rest`, without anything else changed. -/
def peek : Nat → List Char → Calculation Mark
  | 0, _ => throw .noValue
  | fuel + 1, rest => do
    let scan ← get
    set { scan with rest, skipping := 1, current := .name }
    next fuel
    let peeked := (← get).current
    set scan
    return peeked

/-- Looks up the value of a name. -/
def lookUp : Nat → String → Option Raw → Calculation Unit
  | 0, _, _ => throw .noValue
  | fuel + 1, name, subscript => do
    let scan ← get
    if 0 < scan.skipping then
      set { scan with value := 0 }
      return
    let slot? ← match subscript with
      | none => pure (some Slot.whole)
      | some raw => slotOf fuel name raw true
    let session ← getThe Session
    if session.isOn "nounset" ∧ (session.value? name).isNone then
      Action.quit (name ++ ": unbound variable") 1
    let text ← match slot? with
      | some slot => Action.textAt? name slot
      | none => pure none
    let text := text.getD ""
    if text ≠ "" ∧ maxDepth ≤ scan.depth + 1 then fail "expression recursion level exceeded"
    let value ← evaluate fuel scan.command (scan.depth + 1) text
    set { scan with value, slot := slot? }

/-- The slot that stands between the brackets after a name; none, with a complaint, if there is no
such slot. -/
def slotOf : Nat → String → Raw → Bool → Action (Option Slot)
  | 0, _, _, _ => throw .noValue
  | fuel + 1, name, raw, reading => do
    let isTable := (← get).isTable name
    let bad : Action (Option Slot) := do
      let text := name ++ "[" ++ String.ofList raw ++ "]"
      Action.complain ((if reading && !Slot.isEvery raw then name else text) ++
        ": bad array subscript")
      return none
    if Slot.isEvery raw && !isTable then bad
    else if isTable then
      let key ← subscripts.key raw
      if key = "" then bad else return some (.key key)
    else if raw.isEmpty then bad
    else
      let text ← subscripts.expression raw
      match ← Action.attempt (evaluate fuel "" 0 text) with
      | .ok n =>
        match (← get).slot? name n with
        | some slot => return some slot
        | none => bad
      | .error .noValue =>
        Action.setStatus 1
        throw .discarded
      | .error how => throw how

/-- Gives the name a value that it stands for. -/
def store : Nat → String × Option Raw → Option Slot → Int → Calculation Unit
  | 0, _, _, _ => throw .noValue
  | fuel + 1, (name, subscript), slot, value => do
    if 0 < (← get).skipping then return
    let slot? ← match slot, subscript with
      | some slot, _ => pure (some slot)
      | none, none => pure (some Slot.whole)
      | none, some raw => slotOf fuel name raw false
    match slot? with
    | none => pure ()
    | some slot =>
      if !(← Action.putAt name slot (toString value)) then throw .noValue

/-- Expressions with commas between them. -/
def commas : Nat → Calculation Int
  | 0 => throw .noValue
  | fuel + 1 => do
    let value ← assignment fuel
    if (← get).current = .sign "," then
      next fuel
      commas fuel
    else return value

/-- An assignment, or something that binds stronger. -/
def assignment : Nat → Calculation Int
  | 0 => throw .noValue
  | fuel + 1 => do
    let old ← condition fuel
    let scan ← get
    let operator? : Option String := match scan.current with
      | .sign "=" => some ""
      | .assigning operator => some operator
      | _ => none
    match operator? with
    | none => return old
    | some operator =>
      if scan.last ≠ .name then fail "attempted assignment to non-variable"
      next fuel
      let new ← assignment fuel
      let divides := operator = "/" ∨ operator = "%"
      if divides ∧ new = 0 ∧ scan.skipping = 0 then fail "division by 0"
      let value := operate operator old (if divides ∧ new = 0 then 1 else new)
      store fuel scan.reference (if operator = "" then none else scan.slot) value
      modify fun scan => { scan with last := .number }
      return value

/-- A choice between two values, or something that binds stronger. -/
def condition : Nat → Calculation Int
  | 0 => throw .noValue
  | fuel + 1 => do
    let chosen ← anyOf fuel
    if (← get).current ≠ .sign "?" then return chosen
    let first ← skipped (chosen = 0) do
      next fuel
      let current := (← get).current
      if current = .finish ∨ current = .sign ":" then fail "expression expected"
      commas fuel
    if (← get).current ≠ .sign ":" then fail "\x60:' expected for conditional expression"
    let second ← skipped (chosen ≠ 0) do
      next fuel
      if (← get).current = .finish then fail "expression expected"
      condition fuel
    modify fun scan => { scan with last := .number }
    return if chosen ≠ 0 then first else second

/-- Values of which any must hold. -/
def anyOf : Nat → Calculation Int
  | 0 => throw .noValue
  | fuel + 1 => do anyFrom fuel (← allOf fuel)

def anyFrom : Nat → Int → Calculation Int
  | 0, _ => throw .noValue
  | fuel + 1, first => do
    if (← get).current ≠ .sign "||" then return first
    let second ← skipped (first ≠ 0) do
      next fuel
      allOf fuel
    modify fun scan => { scan with last := .number }
    anyFrom fuel (if first ≠ 0 ∨ second ≠ 0 then 1 else 0)

/-- Values that must all hold. -/
def allOf : Nat → Calculation Int
  | 0 => throw .noValue
  | fuel + 1 => do allFrom fuel (← binary fuel levels)

def allFrom : Nat → Int → Calculation Int
  | 0, _ => throw .noValue
  | fuel + 1, first => do
    if (← get).current ≠ .sign "&&" then return first
    let second ← skipped (first = 0) do
      next fuel
      binary fuel levels
    modify fun scan => { scan with last := .number }
    allFrom fuel (if first ≠ 0 ∧ second ≠ 0 then 1 else 0)

/-- Values with the operators of the levels between them. -/
def binary : Nat → List (List String) → Calculation Int
  | 0, _ => throw .noValue
  | fuel + 1, [] => powers fuel
  | fuel + 1, level :: stronger => do binaryFrom fuel level stronger (← binary fuel stronger)

def binaryFrom : Nat → List String → List (List String) → Int → Calculation Int
  | 0, _, _, _ => throw .noValue
  | fuel + 1, level, stronger, first => do
    let scan ← get
    match scan.current with
    | .sign operator =>
      if !level.contains operator then return first
      next fuel
      let second ← binary fuel stronger
      let divides := operator = "/" ∨ operator = "%"
      if divides ∧ second = 0 ∧ scan.skipping = 0 then
        modify fun after => { after with ahead := scan.rest.dropWhile isBlank }
        fail "division by 0"
      modify fun scan => { scan with last := .number }
      binaryFrom fuel level stronger
        (operate operator first (if divides ∧ second = 0 then 1 else second))
    | _ => return first

/-- A value to the power of others. -/
def powers : Nat → Calculation Int
  | 0 => throw .noValue
  | fuel + 1 => do
    let base ← unary fuel
    if (← get).current ≠ .sign "**" then return base
    next fuel
    let exponent ← powers fuel
    modify fun scan => { scan with last := .number }
    if exponent < 0 then fail "exponent less than 0"
    return power base exponent.toNat

/-- A value after signs. -/
def unary : Nat → Calculation Int
  | 0 => throw .noValue
  | fuel + 1 => do
    let signed (f : Int → Int) : Calculation Int := do
      next fuel
      let value ← unary fuel
      modify fun scan => { scan with last := .number }
      return f value
    match (← get).current with
    | .sign "!" => signed fun n => if n = 0 then 1 else 0
    | .sign "~" => signed fun n => -n - 1
    | .sign "-" => signed fun n => wrapped (-n)
    | .sign "+" => signed id
    | _ => single fuel

/-- A single value. -/
def single : Nat → Calculation Int
  | 0 => throw .noValue
  | fuel + 1 => do
    let scan ← get
    match scan.current with
    | .before up =>
      set { scan with last := scan.current }
      next fuel
      let named ← get
      if named.current ≠ .name then
        fail "identifier expected after pre-increment or pre-decrement"
      let value := wrapped (named.value + if up then 1 else -1)
      store fuel named.reference named.slot value
      modify fun scan => { scan with current := .number }
      next fuel
      return value
    | .sign "(" =>
      next fuel
      let value ← commas fuel
      if (← get).current ≠ .sign ")" then fail "missing \x60)'"
      next fuel
      return value
    | .number =>
      next fuel
      return scan.value
    | .name =>
      set { scan with skipping := 1 }
      next fuel
      match (← get).current with
      | .after up =>
        modify fun after => { after with
          reference := scan.reference, slot := scan.slot, skipping := scan.skipping
          last := .name }
        store fuel scan.reference scan.slot (wrapped (scan.value + if up then 1 else -1))
        modify fun scan => { scan with current := .number }
        next fuel
      | _ =>
        set scan
        next fuel
      return scan.value
    | _ => fail "syntax error: operand expected"

/-- The value of an expression. -/
def evaluate : Nat → String → Nat → String → Action Int
  | 0, _, _, _ => throw .noValue
  | fuel + 1, command, depth, text => do
    if text.toList.all isSpace then return 0
    let whole : Calculation Int := do
      next fuel
      let value ← commas fuel
      if (← get).current ≠ .finish then fail "syntax error in expression"
      return value
    let (value, _) ← whole.run (.ofText command text.toList depth)
    return value

end

/-- Enough steps for every expression. -/
def steps : Nat := 1000000

/-- The value of an expression, of which complaints start with the name of a command. -/
def valueOf (command text : String) : Action Int :=
  evaluate subscripts steps command 0 text

/-- The slot that stands between the brackets after a name. -/
def slot (name : String) (raw : Raw) (reading : Bool) : Action (Option Slot) :=
  slotOf subscripts steps name raw reading

end FolderBackup.Shell.Arithmetic
