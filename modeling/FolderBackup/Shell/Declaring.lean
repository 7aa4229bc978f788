import FolderBackup.Shell.Braces
import FolderBackup.Shell.Expansion

/-! Declaring variables.

A variable gets its text by an assignment, or by a command that gives it attributes as well. A list
of texts in parentheses becomes the value of the whole variable. -/
namespace FolderBackup.Shell.Declaring

/-- What a variable is given. -/
inductive Given where
  | text (text : String)
  /-- What stands between parentheses. -/
  | list (inside : Raw)

/-- A text of a list. -/
structure Item where
  /-- The word that it is made of. -/
  word : String
  /-- What it is under, if that is said. -/
  subscript : Option String
  adds : Bool
  text : String

/-- An argument of a command that declares variables. -/
structure Declared where
  /-- The argument as it is shown. -/
  shown : String
  name : String
  subscript : Option Raw
  adds : Bool
  given : Option Given

variable (means : Expansion.Means)

/-! ### Lists of texts -/

/-- The start of an element that says where it goes, and the element. -/
def placed? (raw : Raw) : Option (Raw × Bool × Raw) :=
  match raw with
  | '[' :: rest =>
    match Assignment.subscript? (rest.length + 1) 0 none [] rest with
    | some (subscript, '=' :: value) => some (subscript, false, value)
    | some (subscript, '+' :: '=' :: value) => some (subscript, true, value)
    | _ => none
  | _ => none

/-- The texts of a word, its braces replaced. -/
def textsOf (raw : Raw) : Action (List String) := do
  let words := if (← get).isOn "braceexpand" then Braces.expand raw else [raw]
  return (← words.mapM (Expansion.textsOf means)).flatten

/-- A text as a variable takes it. -/
def taken (held : Variable) (old : Option String) (adds : Bool) (text : String) :
    Action String := do
  let text ← if held.isInteger then do
      let command := (← get).commandName
      let number := Assigning.number (Expansion.brackets means) command
      let before ← if adds then number (old.getD "") else pure 0
      pure (toString (wrapped (before + (← number text))))
    else pure (if adds then old.getD "" ++ text else text)
  return held.letters.apply text

/-- The texts of a list, each with what it is under. Those of a table stay whole. -/
def itemsOf (isTable : Bool) (inside : Raw) : Action (List Item) := do
  let words := Enclosed.words ((← get).isOn "extglob") inside
  let inPairs := isTable && (words.head?.bind placed?).isNone
  let mut items := []
  for word in words do
    match if inPairs then none else placed? word with
    | some (raw, adds, value) =>
      let subscript ← if isTable then Expansion.textOf means raw else Expansion.expressionText means raw
      let text ← Expansion.assignedText means value
      items := items ++ [{ word := String.ofList word, subscript := some subscript, adds, text }]
    | none =>
      let texts ← if isTable then do pure [← Expansion.textOf means word] else textsOf means word
      items := items ++ texts.map fun text => { word := text, subscript := none, adds := false, text }
  return items

/-- A text of a list with quotes around what was put into it. -/
def Item.quoted (item : Item) : Item :=
  let quote (text : String) : String := String.ofList (Quoting.single text.toList)
  { item with word := match item.subscript with
      | some subscript =>
        "[" ++ quote subscript ++ "]" ++ (if item.adds then "+=" else "=") ++ quote item.text
      | none => quote item.text }

/-- Texts under names, or else in pairs, each a name and a text. -/
def tableAfter (name : String) (held : Variable) (start : List (String × String))
    (items : List Item) : Action Value := do
  let mut value : Value := .table start
  if (items.head?.bind Item.subscript).isNone then
    let mut rest := items.map Item.text
    for _ in items do
      match rest with
      | key :: text :: more =>
        value := value.putName key (← taken means held none false text)
        rest := more
      | [key] =>
        value := value.putName key (← taken means held none false "")
        rest := []
      | [] => rest := []
  else
    for item in items do
      match item.subscript with
      | some "" => Action.complain (item.word ++ ": bad array subscript")
      | some key =>
        value := value.putName key
          (← taken means held (value.textAt? (.key key)) item.adds item.text)
      | none =>
        Action.complain (name ++ ": " ++ item.word ++
          ": must use subscript when assigning associative array")
  return value

/-- Texts under numbers. -/
def listAfter (held : Variable) (start : List (Nat × String)) (items : List Item) :
    Action Value := do
  let mut value : Value := .list start
  let mut next := Value.listEnd start
  for item in items do
    let index? ← match item.subscript with
      | none => pure (some next)
      | some text => do
        let n ← Assigning.number (Expansion.brackets means) "" text
        let n := if n < 0 then n + value.finish else n
        pure (if 0 ≤ n then some n.toNat else none)
    match index? with
    | none =>
      Action.complain ("[" ++ item.subscript.getD "" ++ "]=" ++ item.text ++
        ": bad array subscript")
    | some index =>
      value := value.putIndex index
        (← taken means held (value.textAt? (.index index)) item.adds item.text)
      next := index + 1
  return value

/-- The value of a variable after it is given a list of texts. -/
def valueAfter (name : String) (held : Variable) (adds : Bool) (items : List Item) :
    Action Value :=
  match held.value with
  | .table entries => tableAfter means name held (if adds then entries else []) items
  | value => listAfter means held (if adds then value.asList else []) items

/-! ### Assignments -/

/-- What an assignment gives its value to, as it is shown. -/
def shownTarget (assignment : Assignment) : String :=
  assignment.name ++
    ((assignment.subscript.map fun raw => "[" ++ String.ofList raw ++ "]").getD "") ++
    if assignment.adds then "+=" else "="

/-- Gives a variable a list of texts, as it is written or, if so wanted, shown with quotes to `trace`
before; whether it could be given. -/
def assignList (trace : String → Action Unit) (quotes : Bool) (assignment : Assignment) :
    Action Bool := do
  let session ← get
  let name := session.resolved assignment.name
  let held := (session.meant? assignment.name).getD (.plain .unset)
  let items := itemsOf means held.value.isTable assignment.value.tail.dropLast
  let items ← if quotes then do
      let items := (← items).map Item.quoted
      let shown := String.intercalate " " (items.map Item.word)
      trace (shownTarget assignment ++ "(" ++ shown ++ ")")
      pure items
    else do
      trace (shownTarget assignment ++ String.ofList assignment.value)
      if held.isReadonly then pure [] else items
  if held.isReadonly then
    Action.complain (name ++ ": readonly variable")
    return false
  let value ← valueAfter means name held assignment.adds items
  Action.change assignment.name fun _ => value

/-- Makes an assignment, which is shown to `trace` before; whether it could be made. -/
def assign (trace : String → Action Unit) (assignment : Assignment) : Action Bool := do
  match assignment.isCompound, assignment.subscript with
  | true, some raw =>
    trace (shownTarget assignment ++ String.ofList assignment.value)
    Action.complain (assignment.name ++ "[" ++ String.ofList raw ++
      "]: cannot assign list to array member")
    return false
  | true, none => assignList means trace false assignment
  | false, _ =>
    let text ← Expansion.assignedText means assignment.value
    trace (shownTarget assignment ++ Listing.tracedItem text)
    Assigning.giveTo (Expansion.brackets means) assignment.name assignment.subscript
      assignment.adds text

/-! ### Arguments of commands -/

/-- A text as an argument. -/
def ofText (text : String) : Declared :=
  match Assignment.ofRaw? text.toList with
  | some assignment =>
    { shown := text, name := assignment.name, subscript := assignment.subscript
      adds := assignment.adds, given := some (.text (String.ofList assignment.value)) }
  | none =>
    match Assignment.reference? text.toList with
    | some (name, subscript, []) =>
      { shown := text, name, subscript, adds := false, given := none }
    | _ => { shown := text, name := text, subscript := none, adds := false, given := none }

/-! ### Attributes -/

/-- A variable with attributes turned on or off by their letters; being fixed is left out. -/
def attributed (on off : List Char) (held : Variable) : Variable :=
  let flag (letter : Char) (old : Bool) : Bool :=
    if on.contains letter then true else if off.contains letter then false else old
  let cases := ['l', 'u', 'c'].filter on.contains
  let letters : LetterCase := match cases with
    | ['l'] => .lower
    | ['u'] => .upper
    | ['c'] => .capital
    | [] =>
      if (held.letters = .lower ∧ off.contains 'l') ∨ (held.letters = .upper ∧ off.contains 'u') ∨
          (held.letters = .capital ∧ off.contains 'c') then .asGiven else held.letters
    | _ => .asGiven
  { held with
    isInteger := flag 'i' held.isInteger, isExported := flag 'x' held.isExported
    isTraced := flag 't' held.isTraced
    refers := flag 'n' held.refers, letters
    value :=
      if on.contains 'A' then
        match held.value with
        | .unset => .table []
        | .text single => .table [("0", single)]
        | value => value
      else if on.contains 'a' then
        match held.value with
        | .unset => .list []
        | .text single => .list [(0, single)]
        | value => value
      else held.value }

/-- Where a variable is declared. -/
inductive Scope where
  /-- Where it is already, or else outermost. -/
  | found
  /-- In the function that is being run. -/
  | inner
  | outermost
  deriving DecidableEq, Repr

/-- What is wrong with a variable that is to name another one, as complaints have it. -/
def faultyReference? (scope : Scope) (declared : Declared) (held : Variable) : Option String :=
  let faulty (text : String) : Option String :=
    if Lead.isTarget text then none
    else some ("\x60" ++ text ++ "': invalid variable name for name reference")
  if held.value.isList || held.value.isTable then
    some (declared.name ++ ": reference variable cannot be an array")
  else match declared.given, held.value with
    | some (.text text), _ =>
      if text = "" then some "\x60': not a valid identifier"
      else if Lead.names declared.name text && scope ≠ .inner then
        some (declared.name ++ ": nameref variable self references not allowed")
      else faulty text
    | none, .text text => if text = "" then none else faulty text
    | _, _ => none

/-- An argument with the name and the subscript that its name leads to. -/
def led (session : Session) (declared : Declared) : Declared :=
  let (name, subscript) := session.ledTo declared.name declared.subscript
  { declared with name := session.resolved name, subscript }

/-- A variable of a function before it is given anything. It is as the one it hides if that is wanted; else it
only is seen by processes as that one is. -/
def fresh (session : Session) (inherits : Bool) (name : String) : Variable :=
  match session.passing? name, session.local? name, session.held? name with
  | some held, _, _ => { Variable.plain held.value with isExported := held.isExported }
  | none, some held, _ => held
  | none, none, some held =>
    if inherits then { session.filled name held with refers := false, isMade := false }
    else { Variable.plain .unset with isExported := held.isExported }
  | none, none, none => .plain .unset

/-- Gives a variable attributes and, if there is one, a value; whether that could be done. -/
def declare (command : String) (on off : List Char) (scope : Scope) (declared : Declared) :
    Action Bool := do
  let failing (text : String) : Action Bool := do
    if command = "" then Action.complain text else Action.complainAs command text
    return false
  let isReference := on.contains 'n' || off.contains 'n'
  let session ← get
  let isLed := !isReference &&
    (scope ≠ .inner || (session.local? declared.name).any fun held => held.refers)
  let declared := if isLed then led session declared else declared
  let name := declared.name
  let isMark := command = "export" ∨ command = "readonly"
  if !isName name.toList then
    failing ("\x60" ++ declared.shown ++ "': not a valid identifier")
  else if isMark ∧ declared.subscript.isSome then
    let target := String.ofList (declared.shown.toList.takeWhile (· ≠ '='))
    failing ("\x60" ++ target ++ "': not a valid identifier")
  else
    let target := name
    let held := match scope with
      | .found => (session.held? target).getD (.plain .unset)
      | .inner => fresh session (on.contains 'I' || session.isOn "localvar_inherit") name
      | .outermost => (session.global? name).getD (.plain .unset)
    let fault? := if on.contains 'n' then faultyReference? scope declared held else none
    if scope = .inner && session.isOutermost name && (session.global? name).any (·.isReadonly) then
      failing (name ++ ": readonly variable")
    else if scope = .inner && session.isOutermost name && Session.ungiven.contains name then
      failing (name ++ ": variable may not be assigned value")
    else if let some fault := fault? then failing fault
    else if (off.contains 'a' && held.value.isList) || (off.contains 'A' && held.value.isTable) then
      failing (name ++ ": cannot destroy array variables in this way")
    else if on.contains 'A' && held.value.isList then
      failing (name ++ ": cannot convert indexed to associative array")
    else if on.contains 'a' && held.value.isTable then
      failing (name ++ ": cannot convert associative to indexed array")
    else if held.isReadonly && (declared.given.isSome || off.contains 'r' || off.contains 'n') then
      if isMark then
        Action.complain (name ++ ": readonly variable")
        return false
      else failing (name ++ ": readonly variable")
    else
      let put (new : Variable) : Action Unit := modify fun session =>
        match scope with
        | .found =>
          if isMark then session.putLasting target new
          else session.putVariable target new
        | .inner => session.putLocal name new
        | .outermost => session.putGlobal name new
      let isOwn := match declared.given with
        | some (.text text) => Lead.names name text
        | _ => false
      if on.contains 'n' && isOwn then
        Action.complainAs command ("warning: " ++ name ++ ": circular name reference")
      let isArray := on.contains 'n' && (declared.given matches some (.list _))
      let on := if isArray then on.filter (· ≠ 'n') else on
      let held := attributed on off held
      -- a list that came in as a text
      let given : Option Given := match declared.given with
        | some (.text text) =>
          if (held.value.isList || held.value.isTable) && declared.subscript.isNone &&
              text.startsWith "(" && text.endsWith ")" && (on.contains 'a' || on.contains 'A') then
            some (.list text.toList.tail.dropLast)
          else some (.text text)
        | given => given
      put held
      let value ← match given, declared.subscript with
        | none, _ => pure (some held.value)
        | some (.list inside), _ => do
          let items ← itemsOf means held.value.isTable inside
          pure (some (← valueAfter means name held declared.adds items))
        | some (.text text), none => do
          let old := held.value.textAt? .whole
          pure (some (held.value.putText (← taken means held old declared.adds text)))
        | some (.text text), some raw => do
          match ← Arithmetic.slot (Expansion.brackets means) name raw false with
          | none => pure none
          | some slot =>
            if on.contains 'r' then
              Action.complain (name ++ ": readonly variable")
              let value := if held.value = .unset then .list [] else held.value
              put { held with value, isReadonly := true }
              return true
            let text ← taken means held (held.value.textAt? slot) declared.adds text
            pure (some (match slot with
              | .whole => held.value.putText text
              | .index n => held.value.putIndex n text
              | .key key => held.value.putName key text))
      match value with
      | none => return false
      | some value =>
        put { held with
          value, isReadonly := held.isReadonly || on.contains 'r'
          isGiven := held.isGiven || declared.given.isSome
          isExported := held.isExported || (declared.given.isSome && session.isOn "allexport") }
        if declared.given.isSome then
          Action.assigned name ((value.textAt? .whole).getD "")
        if isArray then failing (name ++ ": reference variable cannot be an array")
        else return true

/-! ### Arguments of commands that declare -/

/-- The letters that words turn on before the first argument, as they are written. -/
def writtenLetters : List Raw → List Char
  | ('-' :: letters) :: rest => if letters = ['-'] then [] else letters ++ writtenLetters rest
  | ('+' :: _) :: rest => writtenLetters rest
  | _ => []

/-- Gives a variable a list of texts that a command declares, before the command is run; `before` are
the words that come first. The rest of the line is given up if it cannot be given, unless the variable
is one of a function. -/
def declareList (trace : String → Action Unit) (command : String) (before : List Raw)
    (assignment : Assignment) : Action Unit := do
  let letters := writtenLetters before
  let isInner := (← get).inFunction && ["declare", "typeset", "local"].contains command &&
    !letters.contains 'g'
  let on := letters.filter fun c =>
    "AIiluc".contains c || (c == 'a' && !letters.contains 'A')
  let scope : Scope := if isInner then .inner else if letters.contains 'g' then .outermost else .found
  let declared : Declared :=
    { shown := assignment.name, name := assignment.name, subscript := none, adds := false
      given := none }
  let isMade ← if assignment.subscript.isSome then assign means trace assignment
    else if ← declare means "" on [] scope declared then assignList means trace true assignment
    else pure false
  if !isMade && (!isInner || assignment.subscript.isSome) then
    Action.setStatus 1
    throw .discarded

/-- A word of a command that declares variables, as arguments. A word that assigns stays together; the
last one counts that braces make of it. -/
def ofRaw (trace : String → Action Unit) (command : String) (before : List Raw) (raw : Raw) :
    Action (List Declared) := do
  match Assignment.ofRaw? raw with
  | none => return (← textsOf means raw).map ofText
  | some assignment =>
    let target := String.ofList (raw.take (raw.length - assignment.value.length))
    if assignment.isCompound then
      declareList means trace command before assignment
      return [ofText assignment.name]
    else
      let values := if (← get).isOn "braceexpand" then Braces.expand assignment.value
        else [assignment.value]
      values.mapM fun value => do
        let text ← Expansion.assignedText means value
        return { ofText target with
          shown := target ++ text, given := some (.text text) }

/-! ### Removing -/

/-- Removes a variable, or a slot of it; the status. -/
def remove (name : String) (subscript : Option Raw) : Action Nat := do
  let session ← get
  let (name, subscript) := session.ledTo name subscript
  let target := session.resolved name
  match session.held? target with
  | none => return 0
  | some held =>
    if held.isReadonly then
      Action.complainAs "unset" (name ++ ": cannot unset: readonly variable")
      return 1
    match subscript with
    | none =>
      set (session.removeVariable target)
      return 0
    | some raw =>
      match held.value with
      | .text _ =>
        if raw = ['0'] then
          set (session.removeVariable target)
          return 0
        else
          Action.complainAs "unset" (name ++ ": not an array variable")
          return 1
      | .unset => return 0
      | value =>
        if Slot.isEvery raw && value.isList then
          set (session.putVariable target { held with value := .list [] })
          return 0
        else
          match ← Arithmetic.slot (Expansion.brackets means) target raw false with
          | some slot =>
            modify (Session.putVariable target { held with value := value.remove slot.shown })
            return 0
          | none => return 1

end FolderBackup.Shell.Declaring
