import FolderBackup.Yaml.Node

/-! The document of a text.

A text is read as one document: its root node, and what comes after the root. The first
document is there even if the text holds nothing; anything after its end but further end
marks counts as another document. -/
namespace FolderBackup.Yaml

/-- What comes after the root of a document. -/
inductive Ending where
  | finished
  | another
  | fault (fault : Fault)
  deriving DecidableEq, Repr

/-- The first document of a text. If the text holds nothing at all its root is absent. -/
structure Document where
  root : Node String
  ending : Ending

namespace Document

/-- The handles every document knows. -/
def defaultHandles : Handles :=
  [("!", octetsOf "!".toList), ("!!", octetsOf "tag:yaml.org,2002:".toList)]

/-- The handles that the directives at the start define, and the tokens after them. -/
def readDirectives (versions : Nat) (handles : Handles) :
    List Token → Except Fault (Handles × List Token)
  | [] => .ok (handles, [])
  | token :: rest =>
    match token.kind with
    | .version major minor =>
      if versions ≠ 0 then .error { cause := .duplicateVersion, mark := token.start }
      else if major ≠ 1 ∨ (minor ≠ 1 ∧ minor ≠ 2) then
        .error { cause := .incompatibleVersion, mark := token.start }
      else readDirectives 1 handles rest
    | .tagDirective handle start =>
      if handles.any (·.1 == handle) then
        .error { cause := .duplicateTagDirective, mark := token.start }
      else readDirectives versions (handles ++ [(handle, start)]) rest
    | _ => .ok (handles, token :: rest)

/-- Whether a token ends a document's content. -/
def endsContent : Token.Kind → Bool
  | .version _ _ => true
  | .tagDirective _ _ => true
  | .documentStart => true
  | .documentEnd => true
  | .streamEnd => true
  | _ => false

/-- Whether a token starts a document explicitly. -/
def startsDocument : Token.Kind → Bool
  | .version _ _ => true
  | .tagDirective _ _ => true
  | .documentStart => true
  | _ => false

/-- What comes after the root. -/
def readEnding (fault : Fault) : List Token → Ending
  | [] => .fault fault
  | token :: rest =>
    let rest := if token.kind == .documentEnd then rest else token :: rest
    match rest.dropWhile (·.kind == .documentEnd) with
    | { kind := .streamEnd, .. } :: _ => .finished
    | _ => .another

/-- A document of a node and what comes after it. -/
def ofNode (fault : Fault) : Node String × Grammar.Ahead → Document
  | (root, none) => { root, ending := .fault fault }
  | (root, some tokens) => { root, ending := readEnding fault tokens }

/-- The first document of some tokens. -/
def ofTokens (stream : Tokens) : Document :=
  let tokens := stream.tokens
  -- the end of the text is always among the tokens unless a fault comes first
  let fault := stream.fault.getD { cause := .noToken, mark := .start }
  let broken (fault : Fault) : Document :=
    { root := .cut (.fault fault), ending := .fault fault }
  let fuel := 8 * tokens.length + 8
  match tokens with
  | [] => broken fault
  | first :: _ =>
    if first.kind == .streamEnd then { root := .absent first.start, ending := .finished }
    else if !startsDocument first.kind then
      ofNode fault (Grammar.node { handles := defaultHandles, fault } fuel true false tokens)
    else match readDirectives 0 [] tokens with
      | .error fault => broken fault
      | .ok (_, []) => broken fault
      | .ok (handles, start :: rest) =>
        if start.kind != .documentStart then
          broken { cause := .documentStart, mark := start.start }
        else
          let handles := handles ++ defaultHandles.filter fun d => !handles.any (·.1 == d.1)
          match rest with
          | [] => broken fault
          | next :: _ =>
            if endsContent next.kind then ofNode fault (.absent start.stop, some rest)
            else ofNode fault (Grammar.node { handles, fault } fuel true false rest)

/-- The first document of a text. -/
def ofText (text : String) : Document :=
  ofTokens (Tokens.ofText text)

end Document

end FolderBackup.Yaml
