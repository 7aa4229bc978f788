import FolderBackup.Shell.Token
import FolderBackup.Shell.Written

/-! Scripts.

The tokens of a text group into commands. A script is read one complete command at a time, up to
the end of its line, so everything before a fault is there to be run. -/
namespace FolderBackup.Shell.Reader

/-! ### Tokens that commands are made of -/

def isWord (text : String) (token : Token) : Bool := token == .word text.toList

def isOperatorToken (text : String) (token : Token) : Bool := token == .operator text

/-- The words that only come after something else. -/
def closers : List String := ["then", "elif", "else", "fi", "do", "done", "esac", "\x7d"]

/-- Whether a list of commands ends before a token. -/
def closes (token : Token) : Bool :=
  match token with
  | .textEnd => true
  | .operator text => [")", ";;", ";&", ";;&"].contains text
  | token => closers.any (isWord · token)

/-- The commands that declare variables. -/
def declarers : List String :=
  ["declare", "typeset", "local", "export", "readonly", "alias", "eval", "let"]

/-- What an operator redirects. -/
def redirectionKind? : String → Option Redirection.Kind
  | "<" => some .input
  | ">" => some .output
  | ">|" => some .overwrite
  | ">>" => some .append
  | "<>" => some .inputAndOutput
  | "&>" => some .both
  | "&>>" => some .bothAppended
  | "<&" => some .sameInput
  | ">&" => some .sameOutput
  | "<<<" => some .text
  | "<<" => some (.document [] true false)
  | "<<-" => some (.document [] true true)
  | _ => none

/-- Whether a redirection starts with a token. -/
def redirects : Token → Bool
  | .number _ => true
  | .variable _ => true
  | .operator text => (redirectionKind? text).isSome
  | _ => false

/-- A word without its quotes. -/
def unquoted : Option Char → Raw → List Char
  | _, [] => []
  | none, '\\' :: c :: rest => c :: unquoted none rest
  | some '"', '\\' :: c :: rest =>
    if c = '$' ∨ c = '"' ∨ c = '\\' ∨ c = '\x60' then c :: unquoted (some '"') rest
    else '\\' :: c :: unquoted (some '"') rest
  | none, c :: rest =>
    if c = '\'' ∨ c = '"' then unquoted (some c) rest else c :: unquoted none rest
  | some quote, c :: rest =>
    if c = quote then unquoted none rest else c :: unquoted (some quote) rest

/-- Whether a word has quotes in it. -/
def hasQuotes (raw : Raw) : Bool :=
  raw.any fun c => c == '\\' || c == '\'' || c == '"'

/-- The operators of questions about one word. -/
def asksOne (raw : Raw) : Bool :=
  match raw with
  | ['-', c] => "abcdefghknoprstuvwxzGLNORS".contains c
  | _ => false

/-- The operators of questions about two words. -/
def asksTwo (raw : Raw) : Bool :=
  ["=", "==", "!=", "<", ">", "-ef", "-nt", "-ot", "-eq", "-ne", "-lt", "-gt", "-le", "-ge",
    "=~"].any (·.toList == raw)

/-- A token as the faults of questions name it. -/
def named? : Token → Option String
  | .operator text => some text
  | .lineEnd => some "newline"
  | .textEnd => some "EOF"
  | .word raw => if raw = [']', ']'] then some "]]" else none
  | _ => none

/-- The complaints that a fault in a question ends with. -/
def lastComplaints (reader : Reader) : List (Nat × String) :=
  if reader.ahead = some .textEnd then [(reader.line, "syntax error: unexpected end of file")]
  else reader.nearby

/-- A fault in a question, with complaints before the last ones. -/
def failQuestion {α : Type} (complaints : List (Nat × String)) : Reading α := do
  fail (complaints ++ (← get).lastComplaints)

/-- A fault at a token of a question, with what is said if the token has no name. -/
def failQuestionAt {α : Type} (before after bare : String) (token : Token) : Reading α := do
  let text := match named? token with
    | some name => before ++ " \x60" ++ name ++ "'" ++ after
    | none => bare
  failQuestion [((← get).line, text)]

/-- What stands in parentheses in a question. After a fault the parenthesis is missed as well. -/
def inParentheses {α : Type} (line : Nat) (reading : Reading α) : Reading α :=
  tryCatch reading fun fault => do
    let last := (← get).lastComplaints
    let first := fault.complaints.take (fault.complaints.length - last.length)
    throw (if fault.complaints ≠ first ++ last then fault
      else { fault with complaints := first ++ (line, "expected \x60)'") :: last })

/-- The parts of an expression between semicolons that stand in no quotes. -/
def countParts : Nat → Option Char → List Char → Raw → List Raw
  | 0, _, done, _ => [done.reverse]
  | _, _, done, [] => [done.reverse]
  | fuel + 1, none, done, ';' :: rest => done.reverse :: countParts fuel none [] rest
  | fuel + 1, quote, done, '\\' :: c :: rest => countParts fuel quote (c :: '\\' :: done) rest
  | fuel + 1, none, done, c :: rest =>
    countParts fuel (if c = '\'' ∨ c = '"' then some c else none) (c :: done) rest
  | fuel + 1, some quote, done, c :: rest =>
    countParts fuel (if c = quote then none else some quote) (c :: done) rest

/-- The line of the redirection's document is wanted; the document itself if it is known. -/
def document? (ending : Raw) (stripped : Bool) : Reading Raw := do
  let reader ← get
  let wanted : Wanted :=
    { line := reader.line, ending := unquoted none ending, stripped, verbatim := hasQuotes ending }
  set { reader with wanted := wanted :: reader.wanted, known := reader.known.tail }
  return reader.known.head?.getD []

mutual

/-- The commands up to the parenthesis that closes them, which is dropped. -/
def enclosed : Nat → Reading Command
  | 0 => pure .nothing
  | fuel + 1 => do
    let commands : Reading Command := do
      skipLines fuel .command
      let body ← if isOperatorToken ")" (← look (inside fuel) .command) then pure .nothing
        else list fuel
      let last ← look (inside fuel) .command
      if isOperatorToken ")" last then return body else failAt last
    tryCatch commands fun fault => do
      if (← get).ahead = some .textEnd then failUnclosed ')' (← get).line
      throw fault

/-- The text of the commands up to the parenthesis that closes them, with that. -/
def inside : Nat → Reading Raw
  | 0 => pure []
  | fuel + 1 => do
    let outer ← get
    let start := { outer with
      ahead := none, wanted := [], found := [], known := [], aliases := [], replaces := false
      keepsTurns := true }
    set start
    let first ← enclosed fuel
    let found := (← get).found
    let body ← if !outer.tidies || found.isEmpty then pure first
      else
        set { start with known := found.reverse }
        enclosed fuel
    let after ← get
    set { after with
      ahead := none, wanted := outer.wanted, found := outer.found, known := outer.known
      aliases := outer.aliases, keepsTurns := outer.keepsTurns }
    return if outer.tidies then Written.substitutionText body
      else outer.rest.take (outer.rest.length - after.rest.length)

/-- After the line ends ahead. -/
def skipLines : Nat → Place → Reading Unit
  | 0, _ => pure ()
  | fuel + 1, place => do
    if (← look (inside fuel) place) = .lineEnd then
      drop
      skipLines fuel place

/-- After a word that must come here. -/
def expect : Nat → String → Reading Unit
  | 0, _ => pure ()
  | fuel + 1, text => do
    let found ← look (inside fuel) .command
    if isWord text found then drop else failAt found

/-- After an operator that must come here. -/
def expectOperator : Nat → String → Reading Unit
  | 0, _ => pure ()
  | fuel + 1, text => do
    let found ← look (inside fuel) .command
    if isOperatorToken text found then drop else failAt found

/-- A list of commands, of which there must be one. -/
def list : Nat → Reading Command
  | 0 => pure .nothing
  | fuel + 1 => do
    skipLines fuel .command
    listFrom fuel []

/-- A list of commands after some that are known, latest first. -/
def listFrom : Nat → List Command → Reading Command
  | 0, known => pure (.sequence known.reverse)
  | fuel + 1, known => do
    let command ← andOr fuel
    let after ← look (inside fuel) .command
    let isBackground := isOperatorToken "&" after
    let known := (if isBackground then .background command else command) :: known
    if isBackground || isOperatorToken ";" after || after = .lineEnd then
      drop
      skipLines fuel .command
      if closes (← look (inside fuel) .command) then return .sequence known.reverse
      else
        let turns := after = .lineEnd && (← get).keepsTurns
        listFrom fuel (if turns then .turn :: known else known)
    else return .sequence known.reverse

/-- Pipelines joined by conditions. -/
def andOr : Nat → Reading Command
  | 0 => pure .nothing
  | fuel + 1 => do andOrFrom fuel (← pipeline fuel)

/-- Pipelines joined to what is known. -/
def andOrFrom : Nat → Command → Reading Command
  | 0, known => pure known
  | fuel + 1, known => do
    let joint ← look (inside fuel) .command
    if isOperatorToken "&&" joint then
      drop
      skipLines fuel .command
      andOrFrom fuel (.both known (← pipeline fuel))
    else if isOperatorToken "||" joint then
      drop
      skipLines fuel .command
      andOrFrom fuel (.either known (← pipeline fuel))
    else return known

/-- Commands joined by pipes, negated or timed. -/
def pipeline : Nat → Reading Command
  | 0 => pure .nothing
  | fuel + 1 => do
    let first ← look (inside fuel) .command
    let endsHere : Reading Bool := do
      let next ← look (inside fuel) .command
      return next = .lineEnd || next = .textEnd || isOperatorToken ";" next
    if isWord "!" first then
      drop
      if ← endsHere then return .pipeline true .untold []
      match ← pipeline fuel with
      | .pipeline negated timing members => return .pipeline (!negated) timing members
      | other => return .pipeline true .untold [other]
    else if isWord "time" first then
      drop
      let isBrief := isWord "-p" (← look (inside fuel) .command)
      if isBrief then drop
      let timing : Timing := if isBrief then .brief else .usual
      if ← endsHere then return .pipeline false timing []
      match ← pipeline fuel with
      | .pipeline negated _ members => return .pipeline negated timing members
      | other => return .pipeline false timing [other]
    else
      let command ← command fuel
      match ← members fuel command with
      | [single] => return single
      | all => return .pipeline false .untold all

/-- The members of a pipeline from the first one on. -/
def members : Nat → Command → Reading (List Command)
  | 0, first => pure [first]
  | fuel + 1, first => do
    let joint ← look (inside fuel) .command
    if isOperatorToken "|" joint || isOperatorToken "|&" joint then
      drop
      skipLines fuel .command
      let next ← command fuel
      let complaining : Redirection :=
        { descriptor := .number 2, kind := .sameOutput, target := ['1'] }
      let first := if isOperatorToken "|&" joint then .redirected first [complaining] else first
      return first :: (← members fuel next)
    else return [first]

/-- A single command. -/
def command : Nat → Reading Command
  | 0 => pure .nothing
  | fuel + 1 => do
    let first ← look (inside fuel) .command
    match ← compound? fuel with
    | some body => redirected fuel body
    | none =>
      match first with
      | .word raw =>
        if raw = "function".toList then
          drop
          let name ← look (inside fuel) .argument
          match name with
          | .word name =>
            drop
            let line := (← get).line
            if isOperatorToken "(" (← look (inside fuel) .command) then
              drop
              if isOperatorToken ")" (← look (inside fuel) .command) then
                drop
                definition fuel line name
              else
                let body ← list fuel
                expectOperator fuel ")"
                return .define line line name (← redirected fuel (.subshell line body))
            else definition fuel line name
          | other => failAt other
        else if raw = "coproc".toList then
          drop
          coprocess fuel
        else if raw = "in".toList ∨ closes first then failAt first
        else
          drop
          if (Assignment.ofRaw? raw).isSome then
            simple fuel .assignment (← get).line [raw] []
          else
            let place : Place :=
              if declarers.any (·.toList == raw) then .declaration else .argument
            let second ← look (inside fuel) place
            let line := (← get).line
            if isOperatorToken "(" second then
              drop
              expectOperator fuel ")"
              definition fuel line raw
            else simple fuel place line [raw] []
      | first =>
        if redirects first then
          let redirection ← redirection fuel
          simple fuel .assignment (← get).line [] [redirection]
        else failAt first

/-- A command that goes on by itself, with a name where there is one before a command made of others. -/
def coprocess : Nat → Reading Command
  | 0 => pure .nothing
  | fuel + 1 => do
    let first ← look (inside fuel) .command
    let line := (← get).line
    let usual : Raw := "COPROC".toList
    match ← compound? fuel with
    | some body => return .coprocess line usual (← redirected fuel body)
    | none =>
      match first with
      | .word raw =>
        if closes first then failAt first
        drop
        if (Assignment.ofRaw? raw).isSome then
          return .coprocess line usual (← simple fuel .assignment line [raw] [])
        let _ ← look (inside fuel) .command
        match ← compound? fuel with
        | some body => return .coprocess line raw (← redirected fuel body)
        | none => return .coprocess line usual (← simple fuel .argument line [raw] [])
      | first =>
        if redirects first then
          let redirection ← redirection fuel
          return .coprocess line usual (← simple fuel .assignment line [] [redirection])
        else failAt first

/-- The body of a function. -/
def definition : Nat → Nat → Raw → Reading Command
  | 0, _, _ => pure .nothing
  | fuel + 1, line, name => do
    skipLines fuel .command
    let _ ← look (inside fuel) .command
    let start := (← get).line
    match ← compound? fuel with
    | some body => return .define line start name (← redirected fuel body)
    | none => failAt (← look (inside fuel) .command)

/-- A command made of others, if one starts here. -/
def compound? : Nat → Reading (Option Command)
  | 0 => pure none
  | fuel + 1 => do
    let first ← look (inside fuel) .command
    let line := (← get).line
    match first with
    | .operator "(" =>
      drop
      let body ← list fuel
      expectOperator fuel ")"
      return some (.subshell line body)
    | .expression raw =>
      drop
      return some (.arithmetic line raw)
    | .word raw =>
      match String.ofList raw with
      | "\x7b" =>
        drop
        let body ← list fuel
        expect fuel "\x7d"
        return some (.group body)
      | "if" =>
        drop
        return some (← choice fuel)
      | "while" => loop fuel false
      | "until" => loop fuel true
      | "for" =>
        drop
        match ← look (inside fuel) .loop with
        | .expression raw =>
          drop
          let after ← look (inside fuel) .command
          if isOperatorToken ";" after then drop
          skipLines fuel .command
          let body ← loopBody fuel
          let part (raw : Raw) : Raw :=
            let text := raw.dropWhile isBlank
            if text.isEmpty then ['1'] else text
          match countParts raw.length none [] raw with
          | [first, condition, step] =>
            return some (.count line (part first) (part condition) (part step) body)
          | parts =>
            fail [(line, "syntax error: " ++
                if parts.length < 3 then "arithmetic expression required"
                else "\x60;' unexpected"),
              (line, "syntax error: \x60((" ++ String.ofList raw ++ "))'")]
        | .word name =>
          drop
          let words ← loopWords fuel
          return some (.each line name words (← loopBody fuel))
        | other => failAt other
      | "select" =>
        drop
        match ← look (inside fuel) .argument with
        | .word name =>
          drop
          let words ← loopWords fuel
          return some (.select line name words (← loopBody fuel))
        | other => failAt other
      | "case" =>
        drop
        match ← look (inside fuel) .argument with
        | .word word =>
          drop
          let line := (← get).line
          skipLines fuel .command
          expect fuel "in"
          return some (.switch line word (← branches fuel))
        | other => failAt other
      | "[[" =>
        drop
        let condition ← question fuel
        let last ← look (inside fuel) .question
        if isWord "]]" last then
          drop
          return some (.question line condition)
        else if last = .textEnd then
          failQuestion [((← get).line, "unexpected EOF while looking for \x60]]'")]
        else
          failQuestionAt "syntax error in conditional expression: unexpected token" ""
            "syntax error in conditional expression" last
      | _ => return none
    | _ => return none

/-- A loop on a condition. -/
def loop : Nat → Bool → Reading (Option Command)
  | 0, _ => pure none
  | fuel + 1, ends => do
    drop
    let condition ← list fuel
    expect fuel "do"
    let body ← list fuel
    expect fuel "done"
    return some (.loop ends condition body)

/-- A choice after its first word. -/
def choice : Nat → Reading Command
  | 0 => pure .nothing
  | fuel + 1 => do
    let condition ← list fuel
    expect fuel "then"
    let yes ← list fuel
    let joint ← look (inside fuel) .command
    if isWord "elif" joint then
      drop
      return .choose condition yes (← choice fuel)
    else if isWord "else" joint then
      drop
      let no ← list fuel
      expect fuel "fi"
      return .choose condition yes no
    else
      expect fuel "fi"
      return .choose condition yes .nothing

/-- The words that a loop goes over, if it has any of its own. -/
def loopWords : Nat → Reading (Option (List Raw))
  | 0 => pure none
  | fuel + 1 => do
    let after ← look (inside fuel) .command
    if isOperatorToken ";" after then
      drop
      skipLines fuel .command
      return none
    else
      skipLines fuel .command
      if isWord "in" (← look (inside fuel) .command) then
        drop
        let found ← words fuel
        match ← look (inside fuel) .argument with
        | .operator ";" => drop
        | .lineEnd => drop
        | other => failAt other
        skipLines fuel .command
        return some found
      else return none

/-- The words ahead. -/
def words : Nat → Reading (List Raw)
  | 0 => pure []
  | fuel + 1 => do
    match ← look (inside fuel) .argument with
    | .word raw =>
      drop
      return raw :: (← words fuel)
    | _ => return []

/-- The body of a loop. -/
def loopBody : Nat → Reading Command
  | 0 => pure .nothing
  | fuel + 1 => do
    if isWord "\x7b" (← look (inside fuel) .command) then
      drop
      let body ← list fuel
      expect fuel "\x7d"
      return body
    else
      expect fuel "do"
      let body ← list fuel
      expect fuel "done"
      return body

/-- The branches of a choice by patterns, up to the word that ends it. -/
def branches : Nat → Reading (List (List Raw × Command × BranchEnd))
  | 0 => pure []
  | fuel + 1 => do
    skipLines fuel .argument
    let first ← look (inside fuel) .argument
    if isWord "esac" first then
      drop
      return []
    if isOperatorToken "(" first then drop
    let patterns ← patterns fuel
    skipLines fuel .command
    let start ← look (inside fuel) .command
    let body ← if closes start then pure .nothing else list fuel
    let last ← look (inside fuel) .command
    let branchEnd? : Option BranchEnd := match last with
      | .operator ";;" => some .stop
      | .operator ";&" => some .next
      | .operator ";;&" => some .test
      | _ => none
    match branchEnd? with
    | some branchEnd =>
      drop
      return (patterns, body, branchEnd) :: (← branches fuel)
    | none =>
      expect fuel "esac"
      return [(patterns, body, .stop)]

/-- The patterns of a branch, up to the parenthesis after them. -/
def patterns : Nat → Reading (List Raw)
  | 0 => pure []
  | fuel + 1 => do
    match ← look (inside fuel) .argument with
    | .word raw =>
      drop
      match ← look (inside fuel) .argument with
      | .operator ")" =>
        drop
        return [raw]
      | .operator "|" =>
        drop
        return raw :: (← patterns fuel)
      | other => failAt other
    | other => failAt other

/-- A question whose parts are joined by the weakest joint. -/
def question : Nat → Reading Condition
  | 0 => pure (.one "-n" [])
  | fuel + 1 => do
    let first ← questionBoth fuel
    if isOperatorToken "||" (← look (inside fuel) .question) then
      drop
      return .either first (← question fuel)
    else return first

/-- A question whose parts must all hold. -/
def questionBoth : Nat → Reading Condition
  | 0 => pure (.one "-n" [])
  | fuel + 1 => do
    let first ← questionPart fuel
    if isOperatorToken "&&" (← look (inside fuel) .question) then
      drop
      return .both first (← questionBoth fuel)
    else return first

/-- A part of a question. -/
def questionPart : Nat → Reading Condition
  | 0 => pure (.one "-n" [])
  | fuel + 1 => do
    skipLines fuel .question
    let first ← look (inside fuel) .question
    match first with
    | .operator "(" =>
      drop
      let line := (← get).line
      let condition ← inParentheses line (question fuel)
      let last ← look (inside fuel) .question
      if !isOperatorToken ")" last then
        failQuestion [(line, match named? last with
          | some name => "unexpected token \x60" ++ name ++ "', expected \x60)'"
          | none => "expected \x60)'")]
      drop
      skipLines fuel .question
      return .grouped condition
    | .word raw =>
      if raw = [']', ']'] then failQuestion []
      else if raw = ['!'] then
        drop
        match ← questionPart fuel with
        | .negated inner => return inner
        | inner => return .negated inner
      else if asksOne raw then
        drop
        let word ← look (inside fuel) .question
        match word, isWord "]]" word with
        | .word text, false =>
          drop
          skipLines fuel .question
          return .one (String.ofList raw) text
        | other, _ =>
          failQuestionAt "unexpected argument" " to conditional unary operator"
            "unexpected argument to conditional unary operator" other
      else
        drop
        let joint ← look (inside fuel) .question
        let operator? : Option String := match joint with
          | .word text => if asksTwo text then some (String.ofList text) else none
          | .operator text => if text = "<" ∨ text = ">" then some text else none
          | _ => none
        match operator? with
        | some operator =>
          drop
          let place : Place :=
            if operator = "=" ∨ operator = "==" ∨ operator = "!=" then .pattern
            else if operator = "=~" then .expression else .question
          let word ← look (inside fuel) place
          match word, isWord "]]" word with
          | .word text, false =>
            drop
            skipLines fuel .question
            return .two operator raw text
          | other, _ =>
            failQuestionAt "unexpected argument" " to conditional binary operator"
              "unexpected argument to conditional binary operator" other
        | none =>
          if isWord "]]" joint || ["&&", "||", ")"].any (isOperatorToken · joint) then
            return .one "-n" raw
          else
            failQuestionAt "unexpected token" ", conditional binary operator expected"
              "conditional binary operator expected" joint
    | other =>
      let kind := match other with
        | .number _ => " 284"
        | .variable _ => " 283"
        | _ => ""
      failQuestionAt "unexpected token" " in conditional command"
        ("unexpected token" ++ kind ++ " in conditional command") other

/-- A command of words and redirections from those that are known, latest first. -/
def simple : Nat → Place → Nat → List Raw → List Redirection → Reading Command
  | 0, _, line, words, redirections =>
    pure (.simple line words.reverse redirections.reverse)
  | fuel + 1, place, line, words, redirections => do
    let next ← look (inside fuel) place
    match next with
    | .word raw =>
      drop
      let place : Place :=
        if place ≠ .assignment then place
        else if (Assignment.ofRaw? raw).isSome then .assignment
        else if declarers.any (·.toList == raw) then .declaration
        else .argument
      simple fuel place line (raw :: words) redirections
    | next =>
      if redirects next then
        let redirection ← redirection fuel
        simple fuel place line words (redirection :: redirections)
      else return .simple line words.reverse redirections.reverse

/-- The redirection ahead. -/
def redirection : Nat → Reading Redirection
  | 0 => pure { descriptor := .usual, kind := .input, target := [] }
  | fuel + 1 => do
    let first ← look (inside fuel) .argument
    let descriptor : Redirection.Descriptor := match first with
      | .number digits => .number (valueOf 10 digits)
      | .variable name => .kept name
      | _ => .usual
    if descriptor ≠ .usual then drop
    match ← look (inside fuel) .argument with
    | .operator text =>
      match redirectionKind? text with
      | none => failAt (.operator text)
      | some kind =>
        drop
        let duplicates := text = "<&" ∨ text = ">&"
        match ← look (inside fuel) (if duplicates then .duplicate else .argument) with
        | .word raw =>
          drop
          match kind with
          | .document _ _ strips =>
            let target ← document? raw strips
            return { descriptor, kind := .document (unquoted none raw) (!hasQuotes raw) strips, target }
          | kind => return { descriptor, kind, target := raw }
        | .operator "-" =>
          drop
          return { descriptor, kind, target := ['-'] }
        | .number digits =>
          if duplicates then
            drop
            return { descriptor, kind, target := digits }
          else failAt (.number digits)
        | other => failAt other
    | other => failAt other

/-- A command with the redirections that follow it. -/
def redirected : Nat → Command → Reading Command
  | 0, body => pure body
  | fuel + 1, body => do
    match ← redirections fuel with
    | [] => return body
    | found => return .redirected body found

/-- The redirections ahead. -/
def redirections : Nat → Reading (List Redirection)
  | 0 => pure []
  | fuel + 1 => do
    if redirects (← look (inside fuel) .command) then
      let first ← redirection fuel
      return first :: (← redirections fuel)
    else return []

end

/-- Enough steps to group the rest of a text, in which words may be replaced. -/
def groupSteps (reader : Reader) : Nat :=
  let added := reader.aliases.foldl (fun length entry => length + entry.2.length) 1
  16 * reader.rest.length * added * added + 64

/-- The commands up to the end of a line; none at the end of the text. -/
def commands : Reading (Option Command) := do
  let fuel := (← get).groupSteps
  let first ← look (inside fuel) .command
  if first = .textEnd then return none
  else if first = .lineEnd then
    drop
    return some .nothing
  else
    let found ← commandsFrom fuel fuel []
    match ← look (inside fuel) .command with
    | .lineEnd => drop
    | .textEnd => pure ()
    | other => failAt other
    return some found
where
  /-- The commands of the line after some that are known, latest first. -/
  commandsFrom (fuel : Nat) : Nat → List Command → Reading Command
    | 0, known => pure (.sequence known.reverse)
    | more + 1, known => do
      let command ← andOr fuel
      let after ← look (inside fuel) .command
      let isBackground := isOperatorToken "&" after
      let known := (if isBackground then .background command else command) :: known
      if isBackground || isOperatorToken ";" after then
        drop
        let next ← look (inside fuel) .command
        if next = .lineEnd || next = .textEnd then return .sequence known.reverse
        else commandsFrom fuel more known
      else return .sequence known.reverse

/-- At the start of the next line. -/
def nextLine (reader : Reader) : Reader :=
  if reader.turned then { reader with ahead := none }
  else
    { reader with
      rest := (reader.rest.dropWhile (· ≠ '\n')).tail, turned := true, row := [], ahead := none }

/-- The commands up to the end of a line, or the fault there. Where lines are waited for, the
commands are read again once those are known. -/
def readLine (reader : Reader) : Except Fault (Option Command) × Reader :=
  let start := { reader with known := [], found := [], wanted := [] }
  let (result, after) := commands.run start
  if after.found.isEmpty then (result, after)
  else
    let known := after.found.reverse
    commands.run { start with known }

end FolderBackup.Shell.Reader
