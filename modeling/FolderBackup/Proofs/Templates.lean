import FolderBackup.Proofs.Rules

/-! What templates can say.

There is a template for every sequence of texts and fields: a text is written with each of its
braces twice, and a field as its name in braces (`Template.ofSegments`). Where segments meet,
many braces can come to stand in a row. Split from left to right, though, the template falls into
just the characters and fields that it was written for (`pieces_flatMap_source`), so it is
accepted, and it renders as the texts and the values in their order (`render_ofSegments`).
Values are never split, so nothing is asked of them. -/
namespace FolderBackup.Template

/-! ### Segments -/

/-- A part of what a template is to say: a text that stands for itself, or a field. -/
inductive Segment where
  | literal (text : String)
  | field (named : Field)

/-- How a character that stands for itself is written: a brace twice, all else once. -/
def escaped (c : Char) : List Char :=
  if c = '\x7b' ∨ c = '\x7d' then [c, c] else [c]

/-- How a segment is written. -/
def Segment.source : Segment → List Char
  | .literal text => text.toList.flatMap escaped
  | .field named => '\x7b' :: (named.name.toList ++ ['\x7d'])

/-- What a segment is to come to under the given values. -/
def Segment.value (values : Values) : Segment → String
  | .literal text => text
  | .field named => values.get named

/-- The template of some segments, one after the other. -/
def ofSegments (segments : List Segment) : Template :=
  { text := String.ofList (segments.flatMap Segment.source) }

/-! ### Splitting -/

/-- The piece of a character that stands for itself. -/
def Piece.ofChar (c : Char) : Piece :=
  if c = '\x7b' then .openBrace else if c = '\x7d' then .closeBrace else .char c

/-- The pieces that a segment is split into. -/
def Segment.pieces : Segment → List Piece
  | .literal text => text.toList.map Piece.ofChar
  | .field named => [.placeholder named.name.toList]

@[simp] theorem Piece.render_ofChar (values : Values) (c : Char) :
    (ofChar c).render values = [c] := by
  by_cases hopen : c = '\x7b'
  · simp [ofChar, hopen, render]
  · by_cases hclose : c = '\x7d'
    · simp [ofChar, hclose, render]
    · simp [ofChar, hopen, hclose, render]

theorem Piece.ofChar_ne_placeholder (c : Char) (name : List Char) :
    ofChar c ≠ .placeholder name := by
  unfold ofChar
  split
  · simp
  · split <;> simp

/-- A character that stands for itself is split off, whatever follows. -/
theorem pieces_escaped_append (c : Char) (rest : List Char) :
    pieces (escaped c ++ rest) = Piece.ofChar c :: pieces rest := by
  by_cases hopen : c = '\x7b'
  · subst hopen
    have hwritten : escaped '\x7b' ++ rest = '\x7b' :: '\x7b' :: rest := rfl
    rw [hwritten, pieces]
    simp [Piece.ofChar]
  · by_cases hclose : c = '\x7d'
    · subst hclose
      have hwritten : escaped '\x7d' ++ rest = '\x7d' :: '\x7d' :: rest := rfl
      rw [hwritten, pieces]
      simp [Piece.ofChar]
    · have hwritten : escaped c ++ rest = c :: rest := by simp [escaped, hopen, hclose]
      rw [hwritten, pieces]
      simp [Piece.ofChar, hopen, hclose]

theorem pieces_flatMap_escaped_append (text rest : List Char) :
    pieces (text.flatMap escaped ++ rest) = text.map Piece.ofChar ++ pieces rest := by
  induction text with
  | nil => rfl
  | cons c text ih =>
    rw [List.flatMap_cons, List.append_assoc, pieces_escaped_append, ih, List.map_cons,
      List.cons_append]

theorem nameBefore_append {name : List Char} (h : ∀ c ∈ name, c ≠ '\x7b' ∧ c ≠ '\x7d')
    (after : List Char) : nameBefore (name ++ '\x7d' :: after) = some (name, after) := by
  induction name with
  | nil => simp [nameBefore]
  | cons c name ih =>
    obtain ⟨⟨hopen, hclose⟩, hname⟩ := List.forall_mem_cons.mp h
    rw [List.cons_append, nameBefore, if_neg hclose, if_neg hopen, ih hname]
    rfl

/-- A name in braces is split off as a placeholder, whatever follows. -/
theorem pieces_placeholder_append {name : List Char} (h : ∀ c ∈ name, c ≠ '\x7b' ∧ c ≠ '\x7d')
    (rest : List Char) :
    pieces ('\x7b' :: (name ++ '\x7d' :: rest)) = .placeholder name :: pieces rest := by
  have hhead : (name ++ '\x7d' :: rest).head? ≠ some '\x7b' := by
    cases name with
    | nil => simp
    | cons c name => simpa using (h c List.mem_cons_self).1
  rw [pieces, if_pos rfl, if_neg hhead]
  split
  · next found after hfound =>
    rw [nameBefore_append h] at hfound
    obtain ⟨rfl, rfl⟩ := Prod.mk.inj (Option.some.inj hfound)
    rfl
  · next hnone =>
    rw [nameBefore_append h] at hnone
    cases hnone

theorem Field.braceless_name (field : Field) :
    ∀ c ∈ field.name.toList, c ≠ '\x7b' ∧ c ≠ '\x7d' := by
  have hopen : '\x7b' ∉ field.name.toList := by cases field <;> decide
  have hclose : '\x7d' ∉ field.name.toList := by cases field <;> decide
  intro c hc
  exact ⟨fun h => hopen (h ▸ hc), fun h => hclose (h ▸ hc)⟩

theorem pieces_source_append (segment : Segment) (rest : List Char) :
    pieces (segment.source ++ rest) = segment.pieces ++ pieces rest := by
  cases segment with
  | literal text => exact pieces_flatMap_escaped_append text.toList rest
  | field named =>
    rw [Segment.source, List.cons_append, List.append_assoc, List.singleton_append,
      pieces_placeholder_append named.braceless_name]
    rfl

/-- **What is written for segments is split into them again.** -/
theorem pieces_flatMap_source (segments : List Segment) :
    pieces (segments.flatMap Segment.source) = segments.flatMap Segment.pieces := by
  induction segments with
  | nil => rw [List.flatMap_nil, List.flatMap_nil, pieces]
  | cons segment rest ih => rw [List.flatMap_cons, pieces_source_append, ih, List.flatMap_cons]

/-! ### What a rendering depends on -/

/-- The template has a placeholder of the field. -/
def Names (template : Template) (field : Field) : Prop :=
  Piece.placeholder field.name.toList ∈ pieces template.text.toList

instance (template : Template) (field : Field) : Decidable (template.Names field) :=
  inferInstanceAs (Decidable (_ ∈ _))

theorem Field.name_of_ofName? {name : String} {field : Field} (h : ofName? name = some field) :
    field.name = name := by
  simpa using List.find?_some h

/-- Only the values of the fields that a template names have a part in what it renders as. -/
theorem render_congr {template : Template} {values others : Values}
    (h : ∀ field, template.Names field → values.get field = others.get field) :
    template.render values = template.render others := by
  have hpiece (piece : Piece) (hmem : piece ∈ pieces template.text.toList) :
      piece.render values = piece.render others := by
    cases piece with
    | openBrace | closeBrace | char c => rfl
    | placeholder name =>
      simp only [Piece.render]
      cases hfield : Field.ofName? (String.ofList name) with
      | none => rfl
      | some field =>
        have hname : field.name.toList = name := by
          rw [Field.name_of_ofName? hfield, String.toList_ofList]
        have hnames : template.Names field := by
          rw [Names, hname]
          exact hmem
        exact congrArg String.toList (h field hnames)
  rw [render, render, List.flatMap_def, List.flatMap_def, List.map_congr_left hpiece]

/-! ### Accepting and rendering -/

@[simp] theorem Field.ofName?_name (field : Field) : ofName? field.name = some field := by
  cases field <;> decide

theorem Segment.flatMap_render_pieces (values : Values) (segment : Segment) :
    segment.pieces.flatMap (Piece.render values) = (segment.value values).toList := by
  cases segment with
  | literal text => simp [pieces, value, List.flatMap_map]
  | field named => simp [pieces, value, Piece.render]

theorem isKnown_ofSegments (segments : List Segment) : (ofSegments segments).IsKnown := by
  intro name hname
  rw [ofSegments, String.toList_ofList, pieces_flatMap_source] at hname
  obtain ⟨segment, -, hpiece⟩ := List.mem_flatMap.mp hname
  cases segment with
  | literal text =>
    obtain ⟨c, -, hc⟩ := List.mem_map.mp hpiece
    exact absurd hc (Piece.ofChar_ne_placeholder c name)
  | field named =>
    cases List.mem_singleton.mp hpiece
    exact ⟨named, String.ofList_toList.symm⟩

/-- **A template can say any sequence of texts and fields.** What is written for it is accepted, and
renders as the texts and the values in their order, whatever the texts and the values hold. -/
theorem render_ofSegments (segments : List Segment) :
    (ofSegments segments).checked = .ok (ofSegments segments) ∧
      ∀ values, (ofSegments segments).render values =
        String.join (segments.map (Segment.value values)) := by
  refine ⟨checked_eq_ok_iff.mpr ⟨isKnown_ofSegments segments, rfl⟩, fun values => ?_⟩
  apply String.toList_inj.mp
  rw [render, ofSegments, String.toList_ofList, String.toList_ofList, pieces_flatMap_source,
    List.flatMap_assoc, String.toList_join, List.flatMap_map]
  simp only [Segment.flatMap_render_pieces]

/-- Braces in a row, and a value that looks like a placeholder. -/
example : (ofSegments [.literal "\x7b", .field .date, .literal "\x7d\x7d\x7b"]).render
    ⟨"", "", "\x7bdate\x7d", ""⟩ = "\x7b\x7bdate\x7d\x7d\x7d\x7b" := by
  decide +kernel

end FolderBackup.Template
