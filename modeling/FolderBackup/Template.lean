/-! Destination templates.

A template is a text with placeholders in braces. A text splits from left to right into
pieces: a doubled brace, a placeholder, else one character, a lone brace included. Rendering
writes a doubled brace once, the value of a known placeholder, and everything else as it
stands; it is one pass, so values are never read as templates. The pieces put together
again are the text (`flatMap_source_pieces`). -/
namespace FolderBackup

/-- What a placeholder can name. -/
inductive Template.Field where
  | destFolder
  | destFilename
  | date
  | extensions
  deriving DecidableEq, Repr

namespace Template

/-- The name of a field between the braces. -/
def Field.name : Field → String
  | .destFolder => "dest_folder"
  | .destFilename => "dest_filename"
  | .date => "date"
  | .extensions => "extensions"

def Field.all : List Field := [.destFolder, .destFilename, .date, .extensions]

/-- The field of a name, if it is one of the four. -/
def Field.ofName? (name : String) : Option Field :=
  Field.all.find? (·.name == name)

/-- A value for each field. -/
structure Values where
  destFolder : String
  destFilename : String
  date : String
  extensions : String
  deriving DecidableEq, Repr

def Values.get (values : Values) : Field → String
  | .destFolder => values.destFolder
  | .destFilename => values.destFilename
  | .date => values.date
  | .extensions => values.extensions

/-- A piece of a template's text. -/
inductive Piece where
  | openBrace
  | closeBrace
  | placeholder (name : List Char)
  | char (c : Char)
  deriving DecidableEq, Repr

/-- The text a piece was read from. -/
def Piece.source : Piece → List Char
  | .openBrace => ['\x7b', '\x7b']
  | .closeBrace => ['\x7d', '\x7d']
  | .placeholder name => '\x7b' :: (name ++ ['\x7d'])
  | .char c => [c]

/-- The name that runs up to the next closing brace, and the text after that brace; none if
an opening brace or the end comes first. -/
def nameBefore : List Char → Option (List Char × List Char)
  | [] => none
  | c :: rest =>
    if c = '\x7d' then some ([], rest)
    else if c = '\x7b' then none
    else (nameBefore rest).map fun (name, after) => (c :: name, after)

theorem eq_append_of_nameBefore {text name after : List Char}
    (h : nameBefore text = some (name, after)) : text = name ++ '\x7d' :: after := by
  induction text generalizing name after with
  | nil => simp [nameBefore] at h
  | cons c rest ih =>
    unfold nameBefore at h
    split at h
    · next hc => simp at h; obtain ⟨rfl, rfl⟩ := h; simp [hc]
    · split at h
      · simp at h
      · simp only [Option.map_eq_some_iff, Prod.mk.injEq] at h
        obtain ⟨⟨n, a⟩, hn, rfl, rfl⟩ := h
        simp [ih hn]

theorem length_of_nameBefore {text name after : List Char}
    (h : nameBefore text = some (name, after)) : after.length < text.length := by
  have := congrArg List.length (eq_append_of_nameBefore h)
  simp at this
  omega

/-- The pieces of a text, from left to right. -/
def pieces : List Char → List Piece
  | [] => []
  | c :: rest =>
    if c = '\x7b' then
      if rest.head? = some '\x7b' then .openBrace :: pieces rest.tail
      else match _h : nameBefore rest with
        | some (name, after) => .placeholder name :: pieces after
        | none => .char c :: pieces rest
    else if c = '\x7d' ∧ rest.head? = some '\x7d' then .closeBrace :: pieces rest.tail
    else .char c :: pieces rest
termination_by text => text.length
decreasing_by
  · simp only [List.length_tail, List.length_cons]
    omega
  · have := length_of_nameBefore _h
    simp only [List.length_cons]
    omega
  · simp only [List.length_cons]
    omega
  · simp only [List.length_tail, List.length_cons]
    omega
  · simp only [List.length_cons]
    omega

/-- What a piece becomes under the given values. -/
def Piece.render (values : Values) : Piece → List Char
  | .openBrace => ['\x7b']
  | .closeBrace => ['\x7d']
  | .placeholder name => match Field.ofName? (String.ofList name) with
    | some field => (values.get field).toList
    | none => (Piece.placeholder name).source
  | .char c => [c]

/-- The name of a placeholder that is none of the four fields. -/
def Piece.unknownName? : Piece → Option String
  | .placeholder name =>
    let name := String.ofList name
    if (Field.ofName? name).isNone then some name else none
  | _ => none

end Template

/-- The text that says where a backup is written. -/
structure Template where
  text : String
  deriving DecidableEq, Repr

namespace Template

/-- The text under the given values. -/
def render (template : Template) (values : Values) : String :=
  String.ofList ((pieces template.text.toList).flatMap (Piece.render values))

/-- The placeholders that name no field, each once, in order. -/
def unknownNames (template : Template) : List String :=
  ((pieces template.text.toList).filterMap Piece.unknownName?).eraseDups.mergeSort
    (fun a b => decide (a ≤ b))

/-- No character is lost by splitting a text into its pieces. -/
theorem flatMap_source_pieces (text : List Char) :
    (pieces text).flatMap Piece.source = text := by
  fun_induction pieces text with
  | case1 => rfl
  | case2 rest hhead ih =>
    cases rest with
    | nil => simp at hhead
    | cons d rest => simp at hhead; simp_all [Piece.source]
  | case3 rest hhead name after hname ih =>
    rw [List.flatMap_cons, ih, eq_append_of_nameBefore hname]
    simp [Piece.source]
  | case4 rest hhead hname ih => simp [Piece.source, ih]
  | case5 c rest hc hboth ih =>
    obtain ⟨rfl, hhead⟩ := hboth
    cases rest with
    | nil => simp at hhead
    | cons d rest => simp at hhead; simp_all [Piece.source]
  | case6 c rest hc hboth ih => simp [Piece.source, ih]

end Template

end FolderBackup
