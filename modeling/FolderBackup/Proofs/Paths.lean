import FolderBackup.Proofs.Outcome
import FolderBackup.Proofs.ShellWords
import FolderBackup.World
import Mathlib.Data.List.Basic

/-! Paths and the names in them.

A path is its names with slashes between them (`FileTree.split_joined`). What a path leads to is
found by its names one after the other, so if anything is at a path, the folder that leads to any
name in it has that name among its own (`World.exists_folder_of_contains`). Names that a file system
gives are not empty, no dots and without slashes (`FileTree.IsName`). -/
namespace FolderBackup

/-- A text starts with a character if that is its first one. -/
theorem startsWith_ofList_singleton_iff {text : String} {c : Char} :
    text.startsWith (String.ofList [c]) = true ↔ text.toList.head? = some c := by
  rw [String.startsWith_string_iff, String.toList_ofList]
  cases text.toList with
  | nil => simp
  | cons d rest => simp [eq_comm]

namespace FileTree

/-- Names with slashes between them. -/
def joined (names : List String) : String := String.intercalate "/" names

theorem joined_append {first second : List String} (hfirst : first ≠ []) (hsecond : second ≠ []) :
    joined (first ++ second) = joined first ++ "/" ++ joined second :=
  String.intercalate_append_of_ne_nil hfirst hsecond

theorem joined_singleton (name : String) : joined [name] = name :=
  String.intercalate_singleton

/-- A folder's path with a slash after it goes on with more names. -/
theorem joined_slash_append (folder : List String) {names : List String} (h : names ≠ []) :
    joined (folder ++ [""]) ++ joined names = joined (folder ++ names) := by
  by_cases hfolder : folder = []
  · rw [hfolder, List.nil_append, joined_singleton, String.empty_append, List.nil_append]
  · rw [joined_append hfolder (List.cons_ne_nil _ _), joined_append hfolder h, joined_singleton,
      String.append_empty]

theorem startsWith_slash_iff {path : String} :
    path.startsWith "/" = true ↔ path.toList.head? = some '/' :=
  startsWith_ofList_singleton_iff

theorem joined_slash_ne_empty {folder : List String} (h : folder ≠ []) :
    joined (folder ++ [""]) ≠ "" := by
  rw [joined_append h (List.cons_ne_nil _ _), joined_singleton, String.append_empty]
  intro hempty
  have hchars := congrArg String.toList hempty
  simp at hchars

theorem head?_joined_cons {name : String} (h : name ≠ "") (rest : List String) :
    (joined (name :: rest)).toList.head? = name.toList.head? := by
  have hname : name.toList ≠ [] := by simpa using h
  cases rest with
  | nil => rw [joined_singleton]
  | cons next later =>
    rw [← List.singleton_append, joined_append (List.cons_ne_nil _ _) (List.cons_ne_nil _ _),
      joined_singleton, String.toList_append, String.toList_append, List.append_assoc,
      List.head?_append_of_ne_nil _ hname]

theorem head?_joined_empty_cons {rest : List String} (h : rest ≠ []) :
    (joined ("" :: rest)).toList.head? = some '/' := by
  rw [← List.singleton_append, joined_append (List.cons_ne_nil _ _) h, joined_singleton]
  simp

theorem split_joined {names : List String} (hne : names ≠ [])
    (h : ∀ name ∈ names, '/' ∉ name.toList) : split (joined names) = names := by
  have hslash : ∀ part ∈ names.map String.toList, '/' ∉ part := by
    intro part hpart
    obtain ⟨name, hname, rfl⟩ := List.mem_map.mp hpart
    exact h name hname
  have hparts : (joined names).toList = ['/'].intercalate (names.map String.toList) :=
    String.toList_intercalate
  rw [split, hparts, List.splitOn_intercalate _ hslash (by simpa using hne), List.map_map]
  exact (List.map_congr_left fun name _ => String.ofList_toList).trans (List.map_id _)

theorem joined_split (path : String) : joined (split path) = path := by
  apply String.toList_injective
  have hparts : (split path).map String.toList = path.toList.splitOn '/' := by
    rw [split, List.map_map]
    exact (List.map_congr_left fun part _ => String.toList_ofList).trans (List.map_id _)
  rw [joined, String.toList_intercalate, hparts]
  exact List.intercalate_splitOn '/'

theorem split_ne_nil (path : String) : split path ≠ [] := by
  simp [split, List.splitOn_ne_nil]

/-- The characters of a path but its slashes are those of its names. -/
theorem exists_mem_split_iff {path : String} {c : Char} :
    (∃ name ∈ split path, c ∈ name.toList) ↔ c ∈ path.toList ∧ c ≠ '/' := by
  have hflat : (path.toList.splitOn '/').flatten = path.toList.filter (!· == '/') :=
    flatten_splitOnP _ _
  have hparts : (∃ name ∈ split path, c ∈ name.toList) ↔
      c ∈ (path.toList.splitOn '/').flatten := by
    simp [split]
  rw [hparts, hflat]
  simp

theorem slash_notMem_of_mem_split {path name : String} (h : name ∈ split path) :
    '/' ∉ name.toList :=
  fun hslash => (exists_mem_split_iff.mp ⟨name, h, hslash⟩).2 rfl

/-! ### Names in folders -/

/-- A name as a file system gives it. -/
structure IsName (name : String) : Prop where
  ne_empty : name ≠ ""
  ne_here : name ≠ "."
  ne_back : name ≠ ".."
  no_slash : '/' ∉ name.toList

instance (name : String) : Decidable (IsName name) :=
  decidable_of_iff (name ≠ "" ∧ name ≠ "." ∧ name ≠ ".." ∧ '/' ∉ name.toList)
    ⟨fun ⟨hempty, hhere, hback, hslash⟩ => ⟨hempty, hhere, hback, hslash⟩,
      fun h => ⟨h.ne_empty, h.ne_here, h.ne_back, h.no_slash⟩⟩

/-- All names in the tree are names as a file system gives them. -/
def IsProper (tree : FileTree) : Prop :=
  ∀ entry ∈ tree, ∀ name ∈ entry.1, IsName name

theorem IsProper.put {tree : FileTree} (h : tree.IsProper) {path : List String}
    (hpath : ∀ name ∈ path, IsName name) (entry : Entry) : (tree.put path entry).IsProper := by
  intro other hother name hname
  rcases List.mem_append.mp hother with hother | hother
  · rcases List.mem_cons.mp hother with rfl | hother
    · exact hpath name hname
    · exact h other hother name hname
  · obtain ⟨parent, hparent, rfl⟩ := List.mem_map.mp hother
    obtain ⟨count, -, rfl⟩ := List.mem_map.mp (List.mem_of_mem_filter hparent)
    exact hpath name (List.mem_of_mem_take hname)

theorem isName_of_mem_names {tree : FileTree} (h : tree.IsProper) {folder : List String}
    {name : String} (hname : name ∈ tree.names folder) : IsName name := by
  obtain ⟨entry, hentry, hlast⟩ := List.mem_filterMap.mp (List.mem_eraseDups.mp hname)
  split at hlast
  · exact h entry hentry name (List.mem_of_getLast? hlast)
  · cases hlast

theorem mem_names_of_get? {tree : FileTree} {folder : List String} {name : String}
    (h : (tree.get? (folder ++ [name])).isSome = true) : name ∈ tree.names folder := by
  have hnonempty : (folder ++ [name]).isEmpty = false := by simp
  rw [get?, hnonempty, if_neg Bool.false_ne_true, Option.isSome_map] at h
  obtain ⟨entry, hfound⟩ := Option.isSome_iff_exists.mp h
  have hpath : entry.1 = folder ++ [name] := by simpa using List.find?_some hfound
  refine List.mem_eraseDups.mpr
    (List.mem_filterMap.mpr ⟨entry, List.mem_of_find?_eq_some hfound, ?_⟩)
  simp [hpath]

theorem walk_append (tree : FileTree) (here first second : List String) :
    tree.walk here (first ++ second) = tree.walk here first >>= fun there =>
      tree.walk there second := by
  induction first generalizing here with
  | nil => rfl
  | cons name rest ih =>
    simp only [List.cons_append, walk]
    split
    · rfl
    split
    · exact ih here
    split
    · exact ih here.dropLast
    split
    · rfl
    split
    · exact ih _
    · rfl

/-- Where a walk goes through a name, there is a folder that has it. -/
theorem mem_names_of_walk {tree : FileTree} {folder rest place : List String} {name : String}
    (hname : IsName name) (h : tree.walk folder (name :: rest) = .ok place) :
    tree.isFolder folder = true ∧ name ∈ tree.names folder := by
  rw [walk] at h
  split at h
  · cases h
  next hfolder =>
  rw [if_neg (not_or.mpr ⟨hname.ne_empty, hname.ne_here⟩), if_neg hname.ne_back] at h
  split at h
  · cases h
  split at h
  next hthere => exact ⟨by simpa using hfolder, mem_names_of_get? hthere⟩
  · cases h

end FileTree

namespace World
open FileTree

theorem contains_iff {world : World} {path : String} :
    world.contains path = true ↔
      ∃ place, world.reach path = .ok place ∧ (world.tree.get? place).isSome = true := by
  rw [contains, find, FileTree.find, resolve, ← reach]
  cases world.reach path with
  | error obstacle => simp [Except.toOption]
  | ok place => simp [Except.toOption]

theorem reach_eq_ok_iff {world : World} {path : String} {place : List String} :
    world.reach path = .ok place ↔ path ≠ "" ∧ path.utf8ByteSize ≤ maxPath ∧
      world.tree.walk (if path.startsWith "/" then [] else world.here) (split path) =
        .ok place := by
  rw [reach, FileTree.reach]
  by_cases hempty : path = ""
  · simp [hempty]
  by_cases hlong : maxPath < path.utf8ByteSize
  · simp only [if_neg hempty, if_pos hlong, Nat.not_le_of_lt hlong, false_and, and_false,
      reduceCtorEq]
  · rw [if_neg hempty, if_neg hlong]
    exact ⟨fun h => ⟨hempty, Nat.le_of_not_lt hlong, h⟩, fun h => h.2.2⟩

/-- Where something is found by a path, every name of the path is one of a folder that what stands
before it leads to. -/
theorem exists_folder_of_contains {world : World} {before after : List String} {name : String}
    (hname : IsName name) (hbefore : ∀ other ∈ before, '/' ∉ other.toList)
    (hafter : ∀ other ∈ after, '/' ∉ other.toList)
    (h : world.contains (joined (before ++ name :: after)) = true) :
    ∃ folder, world.reach (if before = [] then "." else joined (before ++ [""])) = .ok folder ∧
      name ∈ world.tree.names folder := by
  obtain ⟨place, hreach, -⟩ := contains_iff.mp h
  obtain ⟨-, hsize, hwalk⟩ := reach_eq_ok_iff.mp hreach
  have hsplit : split (joined (before ++ name :: after)) = before ++ name :: after := by
    refine split_joined (by simp) fun other hother => ?_
    rcases List.mem_append.mp hother with hother | hother
    · exact hbefore other hother
    · rcases List.mem_cons.mp hother with rfl | hother
      · exact hname.no_slash
      · exact hafter other hother
  rw [hsplit, walk_append] at hwalk
  obtain ⟨folder, hfolder, hrest⟩ := bind_eq_ok_iff.mp hwalk
  obtain ⟨hisFolder, hmem⟩ := mem_names_of_walk hname hrest
  refine ⟨folder, ?_, hmem⟩
  by_cases hnone : before = []
  · subst hnone
    have hrelative : (joined ([] ++ name :: after)).startsWith "/" = false := by
      refine Bool.eq_false_iff.mpr fun hslash => ?_
      have hhead := startsWith_slash_iff.mp hslash
      rw [List.nil_append, head?_joined_cons hname.ne_empty] at hhead
      exact hname.no_slash (List.mem_of_head? hhead)
    rw [hrelative, if_neg Bool.false_ne_true] at hfolder
    obtain rfl : world.here = folder := Except.ok.inj hfolder
    refine reach_eq_ok_iff.mpr ⟨by decide, by decide, ?_⟩
    have hdot : split "." = ["."] := by decide +kernel
    have hhere : ".".startsWith "/" = false := by decide +kernel
    rw [if_pos rfl, hdot, hhere, if_neg Bool.false_ne_true, walk]
    simp [hisFolder, walk]
  · have hpath := joined_slash_append before (List.cons_ne_nil name after)
    have hstart := joined_slash_ne_empty hnone
    rw [if_neg hnone]
    refine reach_eq_ok_iff.mpr ⟨hstart, ?_, ?_⟩
    · rw [← hpath, String.utf8ByteSize_append] at hsize
      exact Nat.le_trans (Nat.le_add_right _ _) hsize
    · have hbase : (joined (before ++ [""])).startsWith "/" =
          (joined (before ++ name :: after)).startsWith "/" := by
        rw [Bool.eq_iff_iff, startsWith_slash_iff, startsWith_slash_iff, ← hpath,
          String.toList_append, List.head?_append_of_ne_nil _ (by simpa using hstart)]
      have hslash : ∀ other ∈ before ++ [""], '/' ∉ other.toList := by
        intro other hother
        rcases List.mem_append.mp hother with hother | hother
        · exact hbefore other hother
        · simp [List.mem_singleton.mp hother]
      rw [hbase, split_joined (by simp) hslash, walk_append, hfolder]
      simp [bind, Except.bind, walk, hisFolder]

/-- What is put below the current folder, and not led back from there, has names as a file system
gives them. -/
theorem isProper_put {world : World} (h : world.tree.IsProper)
    (hhere : ∀ name ∈ world.here, IsName name) {path : String} (hpath : ".." ∉ split path)
    (entry : Entry) : (world.put path entry).tree.IsProper := by
  refine IsProper.put h (fun name hname => ?_) entry
  rcases List.mem_append.mp hname with hname | hname
  · exact hhere name hname
  · obtain ⟨hmem, hne⟩ := List.mem_filter.mp hname
    obtain ⟨hempty, hdot⟩ := of_decide_eq_true hne
    exact ⟨hempty, hdot, fun hback => hpath (hback ▸ hmem), slash_notMem_of_mem_split hmem⟩

theorem isProper_usual : World.usual.tree.IsProper := by
  unfold IsProper
  decide +kernel

end World

end FolderBackup
