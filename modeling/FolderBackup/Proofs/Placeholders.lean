import FolderBackup.Proofs.Templates
import Mathlib.Data.List.Forall2

/-! How templates are split.

A text is split from left to right: off comes the doubled brace or the name in braces that it
starts with, or else a single character, which may be a brace that stands alone (`Splits`). Every
text has just one splitting, which loses nothing of it (`splits_iff`). Checking and rendering go by
the same pieces, whatever braces the text has: what the check finds unknown is what rendering
leaves as it stands (`checked_render_agree`). -/
namespace FolderBackup.Template

/-! ### Splittings -/

/-- A piece of more than a character: a doubled brace, or a name without braces in braces. -/
def Piece.IsBraced : Piece → Prop
  | .openBrace => True
  | .closeBrace => True
  | .placeholder name => ∀ c ∈ name, c ≠ '\x7b' ∧ c ≠ '\x7d'
  | .char _ => False

/-- A text is split into pieces: each is the braced one that starts there, or, if there is none,
a single character. -/
inductive Splits : List Char → List Piece → Prop where
  | nil : Splits [] []
  | braced {piece : Piece} {rest : List Char} {more : List Piece} (isBraced : piece.IsBraced)
      (splits : Splits rest more) : Splits (piece.source ++ rest) (piece :: more)
  | char {c : Char} {rest : List Char} {more : List Piece}
      (noBraced : ∀ piece : Piece, piece.IsBraced → ¬ piece.source <+: c :: rest)
      (splits : Splits rest more) : Splits (c :: rest) (.char c :: more)

theorem isBraced_of_nameBefore {text name after : List Char}
    (h : nameBefore text = some (name, after)) : (Piece.placeholder name).IsBraced := by
  induction text generalizing name after with
  | nil => cases h
  | cons c rest ih =>
    rw [nameBefore] at h
    split at h
    · cases h
      intro d hd
      cases hd
    · next hclose =>
      split at h
      · cases h
      · next hopen =>
        obtain ⟨⟨letters, left⟩, hletters, heq⟩ := Option.map_eq_some_iff.mp h
        cases heq
        exact List.forall_mem_cons.mpr ⟨⟨hopen, hclose⟩, ih hletters⟩

/-- A braced piece that starts a text is split off. -/
theorem pieces_braced_append {piece : Piece} (h : piece.IsBraced) (rest : List Char) :
    pieces (piece.source ++ rest) = piece :: pieces rest := by
  cases piece with
  | openBrace => exact pieces_escaped_append '\x7b' rest
  | closeBrace => exact pieces_escaped_append '\x7d' rest
  | placeholder name =>
    rw [Piece.source, List.cons_append, List.append_assoc, List.singleton_append]
    exact pieces_placeholder_append h rest
  | char c => exact h.elim

/-- Where no braced piece starts, a character is split off. -/
theorem pieces_cons_of_noBraced {c : Char} {rest : List Char}
    (h : ∀ piece : Piece, piece.IsBraced → ¬ piece.source <+: c :: rest) :
    pieces (c :: rest) = .char c :: pieces rest := by
  have hopen : c = '\x7b' → rest.head? ≠ some '\x7b' := by
    rintro rfl hhead
    obtain ⟨tail, rfl⟩ := List.head?_eq_some_iff.mp hhead
    exact h .openBrace trivial ⟨tail, rfl⟩
  have hclose : c = '\x7d' → rest.head? ≠ some '\x7d' := by
    rintro rfl hhead
    obtain ⟨tail, rfl⟩ := List.head?_eq_some_iff.mp hhead
    exact h .closeBrace trivial ⟨tail, rfl⟩
  have hname : c = '\x7b' → nameBefore rest = none := by
    rintro rfl
    refine Option.eq_none_iff_forall_not_mem.mpr fun (name, after) hfound => ?_
    refine h (.placeholder name) (isBraced_of_nameBefore hfound) ⟨after, ?_⟩
    rw [eq_append_of_nameBefore hfound, Piece.source, List.cons_append, List.append_assoc,
      List.singleton_append]
  rw [pieces]
  split
  · next hc =>
    rw [if_neg (hopen hc)]
    split
    · next hfound => cases (hname hc).symm.trans hfound
    · rfl
  · rw [if_neg fun hboth => hclose hboth.1 hboth.2]

theorem Splits.eq_pieces {text : List Char} {found : List Piece} (h : Splits text found) :
    found = pieces text := by
  induction h with
  | nil => rw [pieces]
  | braced isBraced splits ih => rw [pieces_braced_append isBraced, ih]
  | char noBraced splits ih => rw [pieces_cons_of_noBraced noBraced, ih]

/-- The pieces that a text is read as are a splitting of it. -/
theorem splits_pieces (text : List Char) : Splits text (pieces text) := by
  induction hlength : text.length using Nat.strongRecOn generalizing text with
  | ind length ih =>
    cases text with
    | nil =>
      rw [pieces]
      exact .nil
    | cons c rest =>
      by_cases hbraced : ∃ piece : Piece, piece.IsBraced ∧ piece.source <+: c :: rest
      · obtain ⟨piece, hpiece, after, hafter⟩ := hbraced
        have hpos : 0 < piece.source.length := by
          cases piece <;> simp [Piece.source]
        have hshorter : after.length < length := by
          rw [← hlength, ← hafter, List.length_append]
          omega
        rw [← hafter, pieces_braced_append hpiece]
        exact .braced hpiece (ih _ hshorter after rfl)
      · have hnone : ∀ piece : Piece, piece.IsBraced → ¬ piece.source <+: c :: rest :=
          fun piece hpiece hstarts => hbraced ⟨piece, hpiece, hstarts⟩
        have hshorter : rest.length < length := by
          rw [← hlength, List.length_cons]
          omega
        rw [pieces_cons_of_noBraced hnone]
        exact .char hnone (ih _ hshorter rest rfl)

/-- **A text has one splitting**, the pieces that it is read as. -/
theorem splits_iff {text : List Char} {found : List Piece} :
    Splits text found ↔ found = pieces text :=
  ⟨Splits.eq_pieces, fun h => h ▸ splits_pieces text⟩

/-! ### What is unknown -/

/-- No field has the name. -/
def IsUnknown (name : String) : Prop :=
  ∀ field : Field, field.name ≠ name

/-- What a piece becomes under the given values: a doubled brace is written once, a placeholder is
replaced by the value of its field, and stays as it is if it has none, as does a character. -/
inductive Piece.Becomes (values : Values) : Piece → List Char → Prop where
  | openBrace : Becomes values .openBrace ['\x7b']
  | closeBrace : Becomes values .closeBrace ['\x7d']
  | known (field : Field) :
      Becomes values (.placeholder field.name.toList) (values.get field).toList
  | unknown {name : List Char} (isUnknown : IsUnknown (String.ofList name)) :
      Becomes values (.placeholder name) (Piece.placeholder name).source
  | char (c : Char) : Becomes values (.char c) [c]

theorem Piece.becomes_render (values : Values) (piece : Piece) :
    piece.Becomes values (piece.render values) := by
  cases piece with
  | openBrace => exact .openBrace
  | closeBrace => exact .closeBrace
  | char c => exact .char c
  | placeholder name =>
    rw [render]
    cases hfield : Field.ofName? (String.ofList name) with
    | none => exact .unknown (Field.ofName?_isNone_iff.mp (by rw [hfield]; rfl))
    | some field =>
      have hname : name = field.name.toList := by
        rw [Field.name_of_ofName? hfield, String.toList_ofList]
      rw [hname]
      exact .known field

theorem mem_unknownNames_iff {template : Template} {name : String} :
    name ∈ template.unknownNames ↔
      Piece.placeholder name.toList ∈ pieces template.text.toList ∧ IsUnknown name := by
  simp only [unknownNames, List.mem_mergeSort, List.mem_eraseDups, List.mem_filterMap]
  constructor
  · rintro ⟨piece, hpiece, hname⟩
    cases piece with
    | openBrace | closeBrace | char c => cases hname
    | placeholder letters =>
      simp only [Piece.unknownName?] at hname
      split at hname
      · next hnone =>
        cases hname
        rw [String.toList_ofList]
        exact ⟨hpiece, Field.ofName?_isNone_iff.mp hnone⟩
      · cases hname
  · rintro ⟨hpiece, hunknown⟩
    refine ⟨_, hpiece, ?_⟩
    simp only [Piece.unknownName?, String.ofList_toList]
    rw [if_pos (Field.ofName?_isNone_iff.mpr hunknown)]

theorem nodup_eraseDups (names : List String) : names.eraseDups.Nodup := by
  induction hlength : names.length using Nat.strongRecOn generalizing names with
  | ind length ih =>
    cases names with
    | nil => exact List.nodup_nil
    | cons name rest =>
      have hshorter : (rest.filter fun other => !other == name).length < length := by
        have := List.length_filter_le (fun other => !other == name) rest
        rw [← hlength, List.length_cons]
        omega
      rw [List.eraseDups_cons]
      refine List.nodup_cons.mpr ⟨fun hmem => ?_, ih _ hshorter _ rfl⟩
      simpa using List.mem_filter.mp (List.mem_eraseDups.mp hmem)

/-- Unknown names are given in order, each once. -/
theorem pairwise_unknownNames (template : Template) :
    template.unknownNames.Pairwise (· < ·) := by
  let found := (pieces template.text.toList).filterMap Piece.unknownName?
  have hordered : template.unknownNames.Pairwise (· ≤ ·) := by
    have hsorted := @List.pairwise_mergeSort String (fun a b => decide (a ≤ b))
      (fun a b c hab hbc =>
        decide_eq_true (String.le_trans (of_decide_eq_true hab) (of_decide_eq_true hbc)))
      (fun a b => by simpa using String.le_total a b) found.eraseDups
    exact hsorted.imp of_decide_eq_true
  have hdistinct : template.unknownNames.Nodup :=
    (List.mergeSort_perm found.eraseDups _).nodup_iff.mpr (nodup_eraseDups found)
  refine (List.pairwise_and_iff.mpr ⟨hordered, hdistinct⟩).imp fun ⟨hle, hne⟩ => ?_
  exact Std.lt_of_le_of_ne hle hne

theorem checked_eq_error_iff {template : Template} {failure : Failure} :
    template.checked = .error failure ↔ template.unknownNames ≠ [] ∧
      failure = .misconfigured (.placeholders template.text template.unknownNames) := by
  rw [checked]
  split
  · next hnone => simp only [hnone, ne_eq, not_true, false_and, reduceCtorEq]
  · next hsome =>
    refine ⟨fun h => ⟨hsome, ?_⟩, fun h => ?_⟩
    · cases h
      rfl
    · rw [h.2]

theorem message_placeholders (text : String) (names : List String) :
    (Failure.misconfigured (.placeholders text names)).message =
      "Configuration error: Unknown placeholders in dest_file " ++ Text.quoted text ++ ": " ++
        String.intercalate ", " names := by
  have hmessage : (Failure.misconfigured (.placeholders text names)).message =
      "Configuration error: " ++ ("Unknown placeholders in dest_file " ++ Text.quoted text ++
        ": " ++ String.intercalate ", " names) := rfl
  have hhead : "Configuration error: Unknown placeholders in dest_file " =
      "Configuration error: " ++ "Unknown placeholders in dest_file " := by decide +kernel
  rw [hmessage, hhead]
  simp only [String.append_assoc]

/-- **Check and rendering agree on every text.** However its braces stand, a text has one
splitting, whose pieces put together are the text. It renders as what its pieces become, one after
the other, and it is refused if and only if one of them is a placeholder whose name is unknown;
then just those names are given, each once and in order. So a template that is accepted leaves no
placeholder as it stands, and one that is refused would leave those it is refused for. -/
theorem checked_render_agree (template : Template) :
    ∃ found : List Piece,
      (∀ other, Splits template.text.toList other ↔ other = found) ∧
      found.flatMap Piece.source = template.text.toList ∧
      (∀ values, ∃ parts, List.Forall₂ (Piece.Becomes values) found parts ∧
        template.render values = String.ofList parts.flatten) ∧
      ((∃ failure, template.checked = .error failure) ↔
        ∃ name, Piece.placeholder name ∈ found ∧ IsUnknown (String.ofList name)) ∧
      (∀ failure, template.checked = .error failure → ∃ names : List String,
        names.Pairwise (· < ·) ∧
        (∀ name, name ∈ names ↔ Piece.placeholder name.toList ∈ found ∧ IsUnknown name) ∧
        failure = .misconfigured (.placeholders template.text names) ∧
        failure.message = "Configuration error: Unknown placeholders in dest_file " ++
          Text.quoted template.text ++ ": " ++ String.intercalate ", " names) ∧
      (template.checked = .ok template → ∀ name, Piece.placeholder name ∈ found →
        ∃ field : Field, field.name = String.ofList name) := by
  have hunknown : template.unknownNames ≠ [] ↔
      ∃ name, Piece.placeholder name ∈ pieces template.text.toList ∧
        IsUnknown (String.ofList name) := by
    rw [ne_eq, List.eq_nil_iff_forall_not_mem, not_forall_not]
    constructor
    · rintro ⟨name, hname⟩
      obtain ⟨hpiece, hnone⟩ := mem_unknownNames_iff.mp hname
      exact ⟨name.toList, hpiece, by rwa [String.ofList_toList]⟩
    · rintro ⟨name, hpiece, hnone⟩
      exact ⟨String.ofList name, mem_unknownNames_iff.mpr ⟨by rwa [String.toList_ofList], hnone⟩⟩
  refine ⟨pieces template.text.toList, fun _ => splits_iff, flatMap_source_pieces _,
    fun values => ⟨(pieces template.text.toList).map (Piece.render values), ?_, ?_⟩, ?_, ?_, ?_⟩
  · exact List.forall₂_map_right_iff.mpr
      (List.forall₂_same.mpr fun piece _ => piece.becomes_render values)
  · rw [render, List.flatMap_def]
  · rw [← hunknown]
    constructor
    · rintro ⟨failure, hfailure⟩
      exact (checked_eq_error_iff.mp hfailure).1
    · intro h
      exact ⟨_, checked_eq_error_iff.mpr ⟨h, rfl⟩⟩
  · intro failure hfailure
    obtain ⟨-, rfl⟩ := checked_eq_error_iff.mp hfailure
    refine ⟨template.unknownNames, pairwise_unknownNames template,
      fun name => mem_unknownNames_iff, rfl, message_placeholders _ _⟩
  · intro hchecked name hname
    exact (checked_eq_ok_iff.mp hchecked).1 name hname

/-- A brace that stands alone, a name in doubled braces and one that is unknown. -/
example : render ⟨"\x7d\x7bx\x7d\x7b\x7bdate\x7d\x7d\x7d\x7bdate\x7d"⟩ ⟨"", "", "\x7b", ""⟩ =
    "\x7d\x7bx\x7d\x7bdate\x7d\x7d\x7b" := by
  decide +kernel

end FolderBackup.Template
