import FolderBackup.Proofs.Globs
import FolderBackup.Proofs.Loaded
import FolderBackup.Proofs.Paths
import Mathlib.Data.List.Forall2

/-! Paths that words stand for.

A word of names, question marks and asterisks stands for the paths that its parts between slashes
match, name by name (`Shell.StandsFor`). The shell looks for them folder by folder, and finds just
those that are there (`Shell.Fields.Search.mem_found_iff`); a word without any stands for itself
(`Shell.Fields.mem_globbed_iff`). -/
namespace FolderBackup

open FileTree

namespace Shell

/-- A part of a pattern matches a name in a folder. A hidden one is matched by a part that starts
with a dot only. -/
structure Pattern.Names (part name : String) : Prop where
  isName : IsName name
  hidden : name.toList.head? = some '.' → part.toList.head? = some '.'
  matched : Pattern.Matches part.toList (Octets.ofText name).toList

/-- A name may come in the place of a part of a word. -/
def Fits (part name : String) : Prop :=
  name = part ∨ Pattern.Names part name

/-- The word stands for the path. -/
def StandsFor (word path : String) : Prop :=
  List.Forall₂ Fits (split word) (split path)

/-- Nothing is special in the word but question marks and asterisks. -/
def IsPlain (word : String) : Prop := Pattern.IsSimple word.toList

theorem IsPlain.ofText_eq {word : String} (h : IsPlain word) : Octets.ofText word = word :=
  Octets.ofText_eq_of_ascii fun c hc => (h c hc).1

/-! ### Parts and names -/

section
variable {part name : String}

theorem Fits.no_slash (h : Fits part name) (hpart : '/' ∉ part.toList) : '/' ∉ name.toList := by
  rcases h with rfl | h
  · exact hpart
  · exact h.isName.no_slash

/-- A part with something special in it matches itself. -/
theorem Pattern.names_self (hslash : '/' ∉ part.toList)
    (hglob : ¬ ∀ c ∈ part.toList, c ≠ '?' ∧ c ≠ '*') (hplain : IsPlain part) :
    Pattern.Names part part where
  isName := by
    refine ⟨?_, ?_, ?_, hslash⟩ <;>
    · rintro rfl
      exact hglob (by simp)
  hidden := id
  matched := by
    rw [hplain.ofText_eq]
    exact .refl _

/-- A part without anything special matches itself only. -/
theorem Pattern.Names.eq (h : Pattern.Names part name)
    (hplain : ∀ c ∈ part.toList, c ≠ '?' ∧ c ≠ '*') (hpart : IsPlain part) : name = part := by
  have hoctets : Octets.ofText name = part :=
    String.toList_injective (h.matched.eq_of_plain hplain)
  exact Octets.ofText_injective (hoctets.trans hpart.ofText_eq.symm)

end

theorem IsPlain.of_mem_split {word part : String} (h : IsPlain word) (hpart : part ∈ split word) :
    IsPlain part := by
  intro c hc
  exact h c (exists_mem_split_iff.mp ⟨part, hpart, hc⟩).1

/-- Every word stands for itself. -/
theorem standsFor_self (word : String) : StandsFor word word :=
  List.forall₂_same.mpr fun _ _ => .inl rfl

/-- A word without anything special stands for itself only. -/
theorem StandsFor.eq {word path : String} (h : StandsFor word path) (hword : IsPlain word)
    (hnone : ∀ c ∈ word.toList, c ≠ '?' ∧ c ≠ '*') : path = word := by
  have hparts : ∀ part ∈ split word, IsPlain part ∧ ∀ c ∈ part.toList, c ≠ '?' ∧ c ≠ '*' :=
    fun part hpart => ⟨hword.of_mem_split hpart, fun c hc =>
      hnone c (exists_mem_split_iff.mp ⟨part, hpart, hc⟩).1⟩
  have hsame : List.Forall₂ (fun part name => part = name) (split word) (split path) := by
    refine ((List.forall₂_and_left _ _).mpr ⟨hparts, h⟩).imp ?_
    rintro part name ⟨⟨hpart, hplain⟩, rfl | hnames⟩
    · rfl
    · exact (hnames.eq hplain hpart).symm
  rw [List.forall₂_eq_eq_eq] at hsame
  rw [← joined_split path, ← hsame, joined_split]

/-- What a word stands for starts as the word does, unless that is special. -/
theorem StandsFor.head?_eq {word path : String} (h : StandsFor word path) (hword : IsPlain word)
    {c : Char} (hhead : word.toList.head? = some c) (hone : c ≠ '?') (hmany : c ≠ '*') :
    path.toList.head? = some c := by
  obtain ⟨part, parts, hparts⟩ := List.exists_cons_of_ne_nil (split_ne_nil word)
  obtain ⟨name, names, hnames⟩ := List.exists_cons_of_ne_nil (split_ne_nil path)
  have hjoined : word = joined (part :: parts) := by rw [← hparts, joined_split]
  have hpath : path = joined (name :: names) := by rw [← hnames, joined_split]
  have hfits : List.Forall₂ Fits (part :: parts) (name :: names) := hparts ▸ hnames ▸ h
  obtain ⟨hfirst, hrest⟩ := List.forall₂_cons.mp hfits
  by_cases hempty : part = ""
  · subst hempty
    have hparts : parts ≠ [] := by
      rintro rfl
      rw [hjoined, joined_singleton] at hhead
      cases hhead
    have hnames : names ≠ [] := by
      rintro rfl
      exact hparts (List.forall₂_nil_right_iff.mp hrest)
    have hname : name = "" := by
      refine hfirst.elim id fun hfirst => ?_
      have hascii : Octets.ofText "" = "" := Octets.ofText_eq_of_ascii (by simp)
      have hoctets : Octets.ofText name = "" :=
        String.toList_injective (Pattern.Matches.nil_iff.mp hfirst.matched)
      exact Octets.ofText_injective (hoctets.trans hascii.symm)
    rw [hpath, hname, head?_joined_empty_cons hnames, ← hhead, hjoined,
      head?_joined_empty_cons hparts]
  · rw [hjoined, head?_joined_cons hempty] at hhead
    have hname : name.toList.head? = some c := by
      rcases hfirst with rfl | hfirst
      · exact hhead
      · obtain ⟨rest, hpart⟩ := List.head?_eq_some_iff.mp hhead
        have hplain : c.toNat < 128 :=
          (hword.of_mem_split (hparts ▸ List.mem_cons_self) c (by simp [hpart])).1
        rw [← Octets.head?_ofText_eq_iff hplain]
        have hmatched := hfirst.matched
        rw [hpart] at hmatched
        cases hoctets : (Octets.ofText name).toList with
        | nil => exact absurd (hoctets ▸ hmatched) (Pattern.Matches.not_cons_nil hmany)
        | cons octet more =>
          rw [hoctets, Pattern.Matches.plain_iff hone hmany] at hmatched
          rw [hmatched.1]
          rfl
    have hne : name ≠ "" := by
      rintro rfl
      cases hname
    rw [hpath, head?_joined_cons hne, hname]

end Shell

namespace World

/-- The word stands for the path, and something is there. -/
def IsFound (world : World) (word path : String) : Prop :=
  Shell.StandsFor word path ∧ world.contains path = true

/-- The path comes in the place of the word: one that is found, or the word itself if none is. -/
def Yields (world : World) (word path : String) : Prop :=
  world.IsFound word path ∨ path = word ∧ ∀ other, ¬ world.IsFound word other

theorem yields_self_of_stands {world : World} {word : String}
    (h : ∀ path, Shell.StandsFor word path → path = word) : world.Yields word word := by
  by_cases hthere : world.contains word = true
  · exact .inl ⟨Shell.standsFor_self word, hthere⟩
  · exact .inr ⟨rfl, fun path hfound => hthere (h path hfound.1 ▸ hfound.2)⟩

/-- What comes in the place of a word looks like an option only if the word does, or starts with
something special. -/
theorem Yields.no_dash {world : World} {word path : String} (h : world.Yields word path)
    (hword : Shell.IsPlain word) {c : Char} (hhead : word.toList.head? = some c) (hone : c ≠ '?')
    (hmany : c ≠ '*') (hdash : c ≠ '-') : path.startsWith "-" = false := by
  have hpath : path.toList.head? = some c := by
    rcases h with hfound | ⟨rfl, -⟩
    · exact hfound.1.head?_eq hword hhead hone hmany
    · exact hhead
  refine Bool.eq_false_iff.mpr fun hstarts => hdash ?_
  exact Option.some.inj (hpath.symm.trans (startsWith_ofList_singleton_iff.mp hstarts))

end World

namespace Shell

/-! ### Looking for paths -/

namespace Fields

theorem components_map_value (text : List Char) :
    components (text.map Piece.value) = (text.splitOn '/').map (·.map Piece.value) := by
  induction text with
  | nil => rfl
  | cons c rest ih =>
    rw [List.map_cons, components, ih, List.splitOn_cons_eq_if_modifyHead]
    by_cases hslash : c = '/'
    · subst hslash
      rfl
    · have hpiece : (Piece.value c).isSlash = false := by
        simp [Piece.isSlash, hslash]
      obtain ⟨first, later, hfirst⟩ := List.exists_cons_of_ne_nil (List.splitOn_ne_nil '/' rest)
      simp [hpiece, hslash, hfirst]

/-- The parts of a word are what stands between its slashes. -/
theorem components_word (word : String) :
    components (word.toList.map .value) =
      (FileTree.split word).map fun part => part.toList.map .value := by
  rw [components_map_value, FileTree.split, List.map_map]
  exact List.map_congr_left fun part _ => by simp

namespace Search

/-- How paths are looked for if no option says otherwise. -/
def usual (world : World) : Search :=
  { world, manner := .usual, hidden := false, deep := false }

theorem ofSession_opened (world : World) : ofSession (Session.opened world) = usual world := by
  rfl

variable {world : World}

/-- The names that come in the place of a part, after the path of a folder. -/
def choices (search : Search) (start : String) (part : List Char) : List String :=
  if Pattern.isGlob false false part then
    (search.names start).filter fun name => Pattern.matchesName .usual false part name.toList
  else [String.ofList part]

theorem paths_nil (start : String) :
    (usual world).paths start [] =
      if world.contains (Octets.toText start) then [start] else [] :=
  rfl

theorem pattern_map_value (part : List Char) : Piece.pattern (part.map .value) = part := by
  simp [Piece.pattern, List.flatMap_map]

theorem text_map_value (part : List Char) : Piece.text (part.map .value) = String.ofList part := by
  rw [Piece.text, Piece.chars, List.filterMap_map]
  exact congrArg String.ofList (List.filterMap_some)

theorem paths_cons (start : String) (part : List Char) (rest : List (List Piece)) :
    (usual world).paths start (part.map .value :: rest) =
      ((usual world).choices start part).flatMap fun name =>
        if rest.isEmpty then (usual world).paths (start ++ name) rest
        else (usual world).paths (start ++ name ++ "/") rest := by
  rw [paths, pattern_map_value, text_map_value, choices]
  cases hglob : Pattern.isGlob false false part with
  | true => simp [usual, hglob, Pattern.Manner.usual]
  | false => simp [usual, hglob, Pattern.Manner.usual]

/-- The path that the names in a folder are looked up by. -/
theorem toText_folder (folder : List String) :
    Octets.toText (if Octets.ofText (joined (folder ++ [""])) = "" then "."
      else Octets.ofText (joined (folder ++ [""]))) =
        if folder = [] then "." else joined (folder ++ [""]) := by
  by_cases hnone : folder = []
  · subst hnone
    decide +kernel
  · have hempty : Octets.ofText "" = "" := Octets.ofText_eq_of_ascii (by simp)
    have hne : Octets.ofText (joined (folder ++ [""])) ≠ "" := fun h =>
      joined_slash_ne_empty hnone (Octets.ofText_injective (h.trans hempty.symm))
    rw [if_neg hne, if_neg hnone, Octets.toText_ofText]

/-- The names that come in the place of a part fit it. -/
theorem exists_fits_of_mem_choices (hproper : world.tree.IsProper) {part : String}
    (hpart : IsPlain part) {start octets : String}
    (h : octets ∈ (usual world).choices start part.toList) :
    ∃ name, octets = Octets.ofText name ∧ Fits part name := by
  rw [choices] at h
  split at h
  · obtain ⟨hnames, hmatches⟩ := List.mem_filter.mp h
    rw [names] at hnames
    cases hreach : ((usual world).world.reach
        (Octets.toText (if start = "" then "." else start))).toOption with
    | none => simp [hreach] at hnames
    | some folder =>
      rw [hreach] at hnames
      obtain ⟨name, hname, rfl⟩ := List.mem_map.mp hnames
      obtain ⟨hhidden, hmatched⟩ := (Pattern.matchesName_usual_iff hpart).mp hmatches
      rw [Octets.head?_ofText_eq_iff (by decide)] at hhidden
      exact ⟨name, rfl, .inr ⟨isName_of_mem_names hproper hname, hhidden, hmatched⟩⟩
  · rw [List.mem_singleton, String.ofList_toList] at h
    exact ⟨part, h.trans hpart.ofText_eq.symm, .inl rfl⟩

/-- A name that fits a part comes in its place if anything is found that way. -/
theorem mem_choices_of_fits {part name : String} (hpart : IsPlain part)
    (hslash : '/' ∉ part.toList) (hfits : Fits part name) {folder later : List String}
    (hfolder : ∀ other ∈ folder, '/' ∉ other.toList) (hlater : ∀ other ∈ later, '/' ∉ other.toList)
    (h : world.contains (joined (folder ++ name :: later)) = true) :
    Octets.ofText name ∈
      (usual world).choices (Octets.ofText (joined (folder ++ [""]))) part.toList := by
  rw [choices]
  by_cases hglob : ∀ c ∈ part.toList, c ≠ '?' ∧ c ≠ '*'
  · have hnone : Pattern.isGlob false false part.toList = false :=
      Bool.eq_false_iff.mpr fun hsome => (Pattern.isGlob_iff hpart).mp hsome hglob
    have hname : name = part := hfits.elim id fun hnames => hnames.eq hglob hpart
    rw [hnone, if_neg Bool.false_ne_true, hname, hpart.ofText_eq, String.ofList_toList]
    exact List.mem_singleton_self part
  · have hnames : Pattern.Names part name := by
      rcases hfits with rfl | hnames
      · exact Pattern.names_self hslash hglob hpart
      · exact hnames
    obtain ⟨place, hreach, hmem⟩ :=
      World.exists_folder_of_contains hnames.isName hfolder hlater h
    rw [if_pos ((Pattern.isGlob_iff hpart).mpr hglob), List.mem_filter,
      Pattern.matchesName_usual_iff hpart, Octets.head?_ofText_eq_iff (by decide), names,
      toText_folder]
    refine ⟨?_, hnames.hidden, hnames.matched⟩
    simp only [usual, hreach, Except.toOption]
    exact List.mem_map_of_mem hmem

/-- At the end of a search, the path itself is found if it is there. -/
theorem mem_paths_nil_iff {path octets : String} :
    octets ∈ (usual world).paths (Octets.ofText path) [] ↔
      octets = Octets.ofText path ∧ world.contains path = true := by
  rw [paths_nil, Octets.toText_ofText]
  split
  next hthere => simp [hthere]
  next hnone => simp [hnone]

theorem ofText_joined_name (folder : List String) (name : String) :
    Octets.ofText (joined (folder ++ [""])) ++ Octets.ofText name =
      Octets.ofText (joined (folder ++ [name])) := by
  rw [← Octets.ofText_append, ← joined_slash_append folder (List.cons_ne_nil name []),
    joined_singleton]

theorem ofText_joined_slash {folder : List String} (h : folder ≠ []) :
    Octets.ofText (joined folder) ++ "/" = Octets.ofText (joined (folder ++ [""])) := by
  have hslash : Octets.ofText "/" = "/" := Octets.ofText_eq_of_ascii (by simp)
  rw [joined_append h (List.cons_ne_nil _ _), joined_singleton, String.append_empty,
    Octets.ofText_append, hslash]

/-- **Paths are found that are there, and whose names fit.** -/
theorem mem_paths_iff (hproper : world.tree.IsProper) {parts : List String} (hparts : parts ≠ [])
    (hplain : ∀ part ∈ parts, IsPlain part ∧ '/' ∉ part.toList) {folder : List String}
    (hfolder : ∀ other ∈ folder, '/' ∉ other.toList) {octets : String} :
    octets ∈ (usual world).paths (Octets.ofText (joined (folder ++ [""])))
        (parts.map fun part => part.toList.map .value) ↔
      ∃ names, List.Forall₂ Fits parts names ∧ octets = Octets.ofText (joined (folder ++ names)) ∧
        world.contains (joined (folder ++ names)) = true := by
  induction parts generalizing folder with
  | nil => exact absurd rfl hparts
  | cons part rest ih =>
    obtain ⟨hpart, hslash⟩ := hplain part List.mem_cons_self
    have hrest : ∀ other ∈ rest, IsPlain other ∧ '/' ∉ other.toList :=
      fun other hother => hplain other (List.mem_cons_of_mem _ hother)
    -- what is looked for after a name has come in the place of the first part
    have hafter (name : String) (hname : Fits part name) :
        octets ∈ (if (rest.map fun part => part.toList.map Piece.value).isEmpty then
          (usual world).paths (Octets.ofText (joined (folder ++ [name])))
            (rest.map fun part => part.toList.map .value)
          else (usual world).paths (Octets.ofText (joined (folder ++ [name])) ++ "/")
            (rest.map fun part => part.toList.map .value)) ↔
        ∃ names, List.Forall₂ Fits rest names ∧
          octets = Octets.ofText (joined (folder ++ name :: names)) ∧
          world.contains (joined (folder ++ name :: names)) = true := by
      by_cases hnone : rest = []
      · subst hnone
        rw [List.map_nil, List.isEmpty_nil, if_pos rfl, mem_paths_nil_iff]
        simp only [List.forall₂_nil_left_iff, exists_eq_left]
      · have hfolder : ∀ other ∈ folder ++ [name], '/' ∉ other.toList :=
          List.forall_mem_append.mpr ⟨hfolder, by simpa using hname.no_slash hslash⟩
        rw [if_neg (by simpa using hnone), ofText_joined_slash (by simp), ih hnone hrest hfolder]
        simp only [List.append_assoc, List.singleton_append]
    rw [List.map_cons, paths_cons, List.mem_flatMap]
    constructor
    · rintro ⟨first, hfirst, hfound⟩
      obtain ⟨name, rfl, hname⟩ := exists_fits_of_mem_choices hproper hpart hfirst
      rw [ofText_joined_name, hafter name hname] at hfound
      obtain ⟨names, hnames, hoctets, hcontains⟩ := hfound
      exact ⟨name :: names, .cons hname hnames, hoctets, hcontains⟩
    · rintro ⟨_, hfits, hoctets, hcontains⟩
      cases hfits with
      | @cons _ name _ names hname hnames =>
        have hlater : ∀ other ∈ names, '/' ∉ other.toList := by
          intro other hother
          obtain ⟨source, hsource, hfits⟩ := exists_mem_of_forall₂ hnames hother
          exact hfits.no_slash (hrest source hsource).2
        refine ⟨Octets.ofText name,
          mem_choices_of_fits hpart hslash hname hfolder hlater hcontains, ?_⟩
        rw [ofText_joined_name, hafter name hname]
        exact ⟨names, hnames, hoctets, hcontains⟩

/-- What is found for a word is what is there and the word stands for. -/
theorem mem_found_iff (hproper : world.tree.IsProper) {word : String} (hword : IsPlain word)
    {octets : String} :
    octets ∈ (usual world).found (word.toList.map .value) ↔
      ∃ path, octets = Octets.ofText path ∧ world.IsFound word path := by
  have hplain : ∀ part ∈ FileTree.split word, IsPlain part ∧ '/' ∉ part.toList :=
    fun part hpart => ⟨hword.of_mem_split hpart, FileTree.slash_notMem_of_mem_split hpart⟩
  have hstart : "" = Octets.ofText (joined ([] ++ [""])) := by decide +kernel
  rw [found, List.mem_mergeSort, components_word, hstart,
    mem_paths_iff hproper (split_ne_nil word) hplain (by simp)]
  simp only [List.nil_append]
  constructor
  · rintro ⟨names, hnames, hoctets, hcontains⟩
    have hsplit : FileTree.split (joined names) = names := by
      refine split_joined (fun hnone => ?_) fun name hname => ?_
      · rw [hnone] at hnames
        exact split_ne_nil word (List.forall₂_nil_right_iff.mp hnames)
      · obtain ⟨part, hpart, hfits⟩ := exists_mem_of_forall₂ hnames hname
        exact hfits.no_slash (hplain part hpart).2
    exact ⟨joined names, hoctets, by rwa [StandsFor, hsplit], hcontains⟩
  · rintro ⟨path, hoctets, hstands, hcontains⟩
    refine ⟨FileTree.split path, hstands, ?_⟩
    rw [joined_split]
    exact ⟨hoctets, hcontains⟩

theorem isPattern_iff {word : String} (hword : IsPlain word) :
    (usual world).isPattern (word.toList.map .value) = true ↔
      ¬ ∀ c ∈ word.toList, c ≠ '?' ∧ c ≠ '*' := by
  have hparts : (usual world).isPattern (word.toList.map .value) = true ↔
      ∃ part ∈ FileTree.split word, ¬ ∀ c ∈ part.toList, c ≠ '?' ∧ c ≠ '*' := by
    rw [isPattern, components_word, List.any_map, List.any_eq_true]
    refine exists_congr fun part => and_congr_right fun hpart => ?_
    rw [Function.comp_apply, pattern_map_value]
    exact Pattern.isGlob_iff (hword.of_mem_split hpart)
  rw [hparts]
  constructor
  · rintro ⟨part, hpart, hspecial⟩ hnone
    exact hspecial fun c hc => hnone c (FileTree.exists_mem_split_iff.mp ⟨part, hpart, hc⟩).1
  · intro hspecial
    obtain ⟨c, hc, hsign⟩ : ∃ c ∈ word.toList, ¬ (c ≠ '?' ∧ c ≠ '*') := by
      simpa only [not_forall, exists_prop] using hspecial
    have hslash : c ≠ '/' := by
      rintro rfl
      exact hsign (by simp)
    obtain ⟨part, hpart, hmem⟩ := FileTree.exists_mem_split_iff.mpr ⟨hc, hslash⟩
    exact ⟨part, hpart, fun hnone => hsign (hnone c hmem)⟩

end Search

theorem globbed_word (world : World) (word : String) :
    globbed (Session.opened world) (word.toList.map .value) =
      if (Search.usual world).isPattern (word.toList.map .value) then
        match (Search.usual world).found (word.toList.map .value) with
        | [] => [word]
        | found => found
      else [word] := by
  have hglob : (Session.opened world).isOn "noglob" = false := rfl
  have hnull : (Session.opened world).isOn "nullglob" = false := rfl
  rw [globbed, Search.ofSession_opened, hglob, hnull, Search.text_map_value,
    String.ofList_toList, Bool.false_or]
  cases (Search.usual world).isPattern (word.toList.map .value) <;> rfl

/-- A word without anything special stays as it is. -/
theorem globbed_of_plain (world : World) {word : String} (hword : IsPlain word)
    (hnone : ∀ c ∈ word.toList, c ≠ '?' ∧ c ≠ '*') :
    globbed (Session.opened world) (word.toList.map .value) = [word] := by
  rw [globbed_word, if_neg fun hpattern => (Search.isPattern_iff hword).mp hpattern hnone]

/-- **A word is replaced by the paths it stands for, and stays if there are none.** -/
theorem mem_globbed_iff {world : World} (hproper : world.tree.IsProper) {word : String}
    (hword : IsPlain word) {octets : String} :
    octets ∈ globbed (Session.opened world) (word.toList.map .value) ↔
      ∃ path, octets = Octets.ofText path ∧ world.Yields word path := by
  have hitself : octets ∈ [word] ↔ octets = Octets.ofText word := by
    rw [List.mem_singleton, hword.ofText_eq]
  by_cases hplain : ∀ c ∈ word.toList, c ≠ '?' ∧ c ≠ '*'
  · rw [globbed_of_plain world hword hplain, hitself]
    constructor
    · intro hoctets
      exact ⟨word, hoctets, World.yields_self_of_stands fun _ hstands => hstands.eq hword hplain⟩
    · rintro ⟨path, rfl, hfound | ⟨rfl, -⟩⟩
      · rw [hfound.1.eq hword hplain]
      · rfl
  · have hfound (octets : String) := @Search.mem_found_iff world hproper word hword octets
    rw [globbed_word, if_pos ((Search.isPattern_iff hword).mpr hplain)]
    split
    next hnone =>
      have hmissing (path : String) : ¬ world.IsFound word path := fun hpath =>
        List.not_mem_nil (hnone ▸ (hfound _).mpr ⟨path, rfl, hpath⟩)
      rw [hitself]
      constructor
      · intro hoctets
        exact ⟨word, hoctets, .inr ⟨rfl, hmissing⟩⟩
      · rintro ⟨path, rfl, hpath | ⟨rfl, -⟩⟩
        · exact absurd hpath (hmissing path)
        · rfl
    next hsome =>
      rw [hfound]
      refine exists_congr fun path => and_congr_right fun _ => ⟨.inl, ?_⟩
      rintro (hpath | ⟨-, hmissing⟩)
      · exact hpath
      · obtain ⟨first, hfirst⟩ := List.exists_mem_of_ne_nil _ hsome
        obtain ⟨other, -, hother⟩ := (hfound first).mp hfirst
        exact absurd hother (hmissing other)

end Fields

end Shell

end FolderBackup
