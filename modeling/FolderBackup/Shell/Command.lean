import FolderBackup.Shell.Octets

/-! Commands.

What a script is made of. Words are kept as they stand in the text, quotes and all; what they mean
is found out when a command is run. -/
namespace FolderBackup.Shell

/-- A word, or some other piece of a script, as it stands in the text. -/
abbrev Raw := List Char

/-- The words of the language. -/
def keywords : List String :=
  ["if", "then", "else", "elif", "fi", "case", "esac", "for", "select", "while", "until", "do", "done",
    "in", "function", "time", "\x7b", "\x7d", "!", "[[", "]]", "coproc"]

/-! ### Redirections -/

/-- What a redirection does. -/
inductive Redirection.Kind where
  | input
  | output
  /-- An output, also where files are not to be overwritten. -/
  | overwrite
  | append
  | inputAndOutput
  /-- Output and complaints together. -/
  | both
  | bothAppended
  | sameInput
  | sameOutput
  /-- The word itself is the input. -/
  | text
  /-- The lines that follow are the input, up to the one that ends them; whether values are put into them,
  and whether tabs in front of them are left out. -/
  | document (ending : List Char) (expands strips : Bool)
  deriving DecidableEq, Repr

/-- The descriptor that is redirected if none is named. -/
def Redirection.Kind.usualDescriptor : Redirection.Kind → Nat
  | .input => 0
  | .inputAndOutput => 0
  | .sameInput => 0
  | .text => 0
  | .document _ _ _ => 0
  | _ => 1

/-- Which descriptor is redirected. -/
inductive Redirection.Descriptor where
  | usual
  | number (n : Nat)
  /-- A new one, whose number is kept in a variable. -/
  | kept (name : String)
  deriving DecidableEq, Repr

/-- Something that takes the place of an input or output. -/
structure Redirection where
  descriptor : Redirection.Descriptor
  kind : Redirection.Kind
  /-- The word of the redirection, or the lines that are the input. -/
  target : Raw
  deriving DecidableEq, Repr

/-! ### Commands -/

/-- A question between double brackets. -/
inductive Condition where
  | one (operator : String) (word : Raw)
  | two (operator : String) (first second : Raw)
  | both (first second : Condition)
  | either (first second : Condition)
  | negated (condition : Condition)
  /-- A question in parentheses. -/
  | grouped (condition : Condition)
  deriving Repr

/-- What follows a branch that was taken. -/
inductive BranchEnd where
  | stop
  /-- The next branch is taken too. -/
  | next
  /-- The patterns of the next branches are tried too. -/
  | test
  deriving DecidableEq, Repr

/-- Whether it is told how long a command takes, and how. -/
inductive Timing where
  | untold
  | usual
  /-- In seconds alone. -/
  | brief
  deriving DecidableEq, Repr

/-- A command of a script, with the line it is on where its complaints need it. -/
inductive Command where
  | simple (line : Nat) (words : List Raw) (redirections : List Redirection)
  | pipeline (negated : Bool) (timing : Timing) (members : List Command)
  | both (first second : Command)
  | either (first second : Command)
  | sequence (commands : List Command)
  | background (command : Command)
  | subshell (line : Nat) (body : Command)
  | group (body : Command)
  | redirected (command : Command) (redirections : List Redirection)
  | choose (condition yes no : Command)
  | each (line : Nat) (name : Raw) (words : Option (List Raw)) (body : Command)
  | select (line : Nat) (name : Raw) (words : Option (List Raw)) (body : Command)
  | count (line : Nat) (first condition step : Raw) (body : Command)
  | loop (ends : Bool) (condition body : Command)
  | switch (line : Nat) (word : Raw) (branches : List (List Raw × Command × BranchEnd))
  | question (line : Nat) (condition : Condition)
  | arithmetic (line : Nat) (expression : Raw)
  /-- A function, with the line that its body starts on. -/
  | define (line start : Nat) (name : Raw) (body : Command)
  /-- A command that goes on by itself, with a way to and from it that a variable has. -/
  | coprocess (line : Nat) (name : Raw) (body : Command)
  /-- The input is written as it is. -/
  | copy
  /-- The end of a line between commands, where that is kept. -/
  | turn

/-- A command that does nothing. -/
def Command.nothing : Command := .sequence []

/-! ### Assignments -/

/-- The start of a word that assigns a value. -/
structure Assignment where
  name : String
  /-- What stands between the brackets after the name. -/
  subscript : Option Raw
  /-- Whether the value is added to the old one. -/
  adds : Bool
  value : Raw
  deriving Repr

namespace Assignment

/-- What stands before the bracket that closes a subscript, and what comes after it. Quotes and
inner brackets are passed over. -/
def subscript? : Nat → Nat → Option Char → Raw → Raw → Option (Raw × Raw)
  | 0, _, _, _, _ => none
  | _, _, _, _, [] => none
  | fuel + 1, depth, quote, done, c :: rest =>
    match quote with
    | some q =>
      match c, rest with
      | '\\', d :: more =>
        if q = '\'' then subscript? fuel depth quote ('\\' :: done) rest
        else subscript? fuel depth quote (d :: '\\' :: done) more
      | c, rest => subscript? fuel depth (if c = q then none else quote) (c :: done) rest
    | none =>
      match c, rest with
      | '\\', d :: more => subscript? fuel depth none (d :: '\\' :: done) more
      | c, rest =>
        if c = '\'' ∨ c = '"' ∨ c = '\x60' then subscript? fuel depth (some c) (c :: done) rest
        else if c = '[' then subscript? fuel (depth + 1) none (c :: done) rest
        else if c = ']' then
          match depth with
          | 0 => some (done.reverse, rest)
          | depth + 1 => subscript? fuel depth none (c :: done) rest
        else subscript? fuel depth none (c :: done) rest

/-- The name at the start of a word, a subscript, and what comes after them. -/
def reference? (raw : Raw) : Option (String × Option Raw × Raw) :=
  let name := raw.takeWhile isNameChar
  let rest := raw.drop name.length
  if !isName name then none
  else match rest with
    | '[' :: inside =>
      (subscript? (inside.length + 1) 0 none [] inside).map fun (subscript, rest) =>
        (String.ofList name, some subscript, rest)
    | rest => some (String.ofList name, none, rest)

/-- The assignment that a word is, if it is one. -/
def ofRaw? (raw : Raw) : Option Assignment :=
  match reference? raw with
  | some (name, subscript, '=' :: value) => some { name, subscript, adds := false, value }
  | some (name, subscript, '+' :: '=' :: value) => some { name, subscript, adds := true, value }
  | _ => none

/-- Whether the value is a list of values between parentheses. -/
def isCompound (assignment : Assignment) : Bool :=
  assignment.value.head? == some '(' && assignment.value.getLast? == some ')'

end Assignment

end FolderBackup.Shell
