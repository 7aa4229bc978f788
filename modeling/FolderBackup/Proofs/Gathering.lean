import FolderBackup.Proofs.Roots
import FolderBackup.Proofs.FirstFault

/-! Failures gathered into one.

Several failures can be among several failures, to any depth, and headings can stand anywhere
between. A failure in there is at a place: its position among the outermost failures, then its
position among those it was found to be, and so on down to a single one. A heading ends this: what
it is put over counts as single, whatever that is (`Failure.at?`).

Chaining two failures and making one of a list both take out what is single at every place, in the
order of the places and each once, so several are never directly among several again. It makes no
difference to do it twice, nor what is chained first. Whether the outcome is a failure of
configuration depends on all that went in, although that question is asked beneath headings and
gathering stops above them (`Failure.gathering_laws`). -/
namespace FolderBackup.Failure

/-- Whether a failure is several failures. -/
def isSeveral : Failure → Bool
  | .several _ => true
  | _ => false

/-- The failure at a place. -/
def at? : Failure → List Nat → Option Failure
  | failure, [] => some failure
  | .several failures, position :: place => failures[position]?.bind (at? · place)
  | _, _ :: _ => none

/-- The places of all that is single in a failure, in order, and what is found there. -/
structure Enumerates (failure : Failure) (places : List (List Nat)) (members : List Failure) :
    Prop where
  ordered : places.Pairwise (· < ·)
  single : ∀ place, place ∈ places ↔
    ∃ found, failure.at? place = some found ∧ found.isSeveral = false
  found : places.map failure.at? = members.map some

/-- A failure is several failures, none of them several again: all that is single in some. -/
def Gathers (gathered : Failure) (failures : List Failure) : Prop :=
  ∃ places members, gathered = .several members ∧
    (several failures).Enumerates places members ∧ ∀ member ∈ members, member.isSeveral = false

/-! ### Places -/

mutual

/-- The places of what is single in a failure. -/
def places : Failure → List (List Nat)
  | .several failures => placesFrom 0 failures
  | _ => [[]]

/-- The places in some failures, the first of which has the position given. -/
def placesFrom (position : Nat) : List Failure → List (List Nat)
  | [] => []
  | failure :: rest => failure.places.map (position :: ·) ++ placesFrom (position + 1) rest

end

theorem mem_placesFrom {failures : List Failure} {first : Nat} {place : List Nat} :
    place ∈ placesFrom first failures ↔ ∃ position below failure,
      failures[position]? = some failure ∧ below ∈ failure.places ∧
        place = (first + position) :: below := by
  induction failures generalizing first with
  | nil => simp [placesFrom]
  | cons failure rest ih =>
    rw [placesFrom, List.mem_append, List.mem_map, ih]
    constructor
    · rintro (⟨below, hbelow, rfl⟩ | ⟨position, below, found, hfound, hbelow, rfl⟩)
      · exact ⟨0, below, failure, rfl, hbelow, rfl⟩
      · exact ⟨position + 1, below, found, hfound, hbelow, by rw [Nat.add_right_comm]; rfl⟩
    · rintro ⟨position, below, found, hfound, hbelow, rfl⟩
      cases position with
      | zero =>
        cases hfound
        exact .inl ⟨below, hbelow, rfl⟩
      | succ position =>
        exact .inr ⟨position, below, found, hfound, hbelow, by rw [Nat.add_right_comm]; rfl⟩

/-- The places are exactly those at which there is something single. -/
theorem mem_places_iff {failure : Failure} {place : List Nat} : place ∈ failure.places ↔
    ∃ found, failure.at? place = some found ∧ found.isSeveral = false := by
  -- each position of a place leads one failure further in
  induction place generalizing failure with
  | nil =>
    cases failure with
    | several failures => simp [places, mem_placesFrom, at?, isSeveral]
    | _ => simp [places, at?, isSeveral]
  | cons position place ih =>
    cases failure with
    | several failures =>
      simp only [places, mem_placesFrom, at?, Nat.zero_add, List.cons.injEq,
        Option.bind_eq_some_iff]
      constructor
      · rintro ⟨_, _, inner, hinner, hbelow, rfl, rfl⟩
        obtain ⟨found, hfound, hsingle⟩ := ih.mp hbelow
        exact ⟨found, ⟨inner, hinner, hfound⟩, hsingle⟩
      · rintro ⟨found, ⟨inner, hinner, hfound⟩, hsingle⟩
        exact ⟨position, place, inner, hinner, ih.mpr ⟨found, hfound, hsingle⟩, rfl, rfl⟩
    | _ => simp [places, at?]

mutual

/-- Each place is listed after those before it, so no place is listed twice. -/
theorem pairwise_places (failure : Failure) : failure.places.Pairwise (· < ·) := by
  cases failure with
  | several failures => exact pairwise_placesFrom 0 failures
  | _ => exact List.pairwise_singleton _ _

theorem pairwise_placesFrom (first : Nat) (failures : List Failure) :
    (placesFrom first failures).Pairwise (· < ·) := by
  cases failures with
  | nil => exact List.Pairwise.nil
  | cons failure rest =>
    rw [placesFrom, List.pairwise_append, List.pairwise_map]
    refine ⟨(pairwise_places failure).imp List.cons_lt_cons_self.mpr,
      pairwise_placesFrom (first + 1) rest, ?_⟩
    -- the places in the rest start with a later position
    intro place hplace other hother
    obtain ⟨below, _, rfl⟩ := List.mem_map.mp hplace
    obtain ⟨position, below, _, _, _, rfl⟩ := mem_placesFrom.mp hother
    exact List.Lex.rel (by omega)

end

mutual

/-- What is found at the places are the parts. -/
theorem map_at?_places (failure : Failure) :
    failure.places.map failure.at? = failure.parts.map some := by
  cases failure with
  | several failures => exact map_at?_placesFrom failures 0 failures rfl
  | _ => rfl

theorem map_at?_placesFrom (all : List Failure) (first : Nat) (failures : List Failure)
    (h : all.drop first = failures) :
    (placesFrom first failures).map (several all).at? = (partsOf failures).map some := by
  cases failures with
  | nil => rfl
  | cons failure rest =>
    have hfirst : all[first]? = some failure := by
      rw [← List.head?_drop, h, List.head?_cons]
    have hrest : all.drop (first + 1) = rest := by
      rw [← List.tail_drop, h, List.tail_cons]
    have hbelow : (several all).at? ∘ (first :: ·) = failure.at? := by
      funext place
      simp [at?, hfirst]
    rw [placesFrom, partsOf, List.map_append, List.map_append, List.map_map, hbelow,
      map_at?_places failure, map_at?_placesFrom all (first + 1) rest hrest]

end

theorem enumerates_parts (failure : Failure) : failure.Enumerates failure.places failure.parts :=
  ⟨pairwise_places failure, fun _ => mem_places_iff, map_at?_places failure⟩

theorem Enumerates.isSeveral_eq_false {failure : Failure} {places : List (List Nat)}
    {members : List Failure} (h : failure.Enumerates places members) {member : Failure}
    (hmember : member ∈ members) : member.isSeveral = false := by
  have hmem : some member ∈ places.map failure.at? := by
    rw [h.found]
    exact List.mem_map_of_mem hmember
  obtain ⟨place, hplace, hat⟩ := List.mem_map.mp hmem
  obtain ⟨found, hfound, hsingle⟩ := (h.single place).mp hplace
  rw [hat] at hfound
  cases hfound
  exact hsingle

/-! ### Parts -/

theorem isSeveral_eq_false_of_mem_partsOf {failures : List Failure} {member : Failure}
    (h : member ∈ partsOf failures) : member.isSeveral = false :=
  (several failures).enumerates_parts.isSeveral_eq_false h

theorem parts_of_single {failure : Failure} (h : failure.isSeveral = false) :
    failure.parts = [failure] := by
  cases failure <;> first | rfl | cases h

theorem partsOf_of_single {failures : List Failure}
    (h : ∀ failure ∈ failures, failure.isSeveral = false) : partsOf failures = failures := by
  induction failures with
  | nil => rfl
  | cons failure rest ih =>
    obtain ⟨hfirst, hrest⟩ := List.forall_mem_cons.mp h
    rw [partsOf, parts_of_single hfirst, ih hrest]
    rfl

theorem partsOf_append (first second : List Failure) :
    partsOf (first ++ second) = partsOf first ++ partsOf second := by
  induction first with
  | nil => rfl
  | cons failure rest ih => rw [List.cons_append, partsOf, partsOf, ih, List.append_assoc]

theorem partsOf_pair (first second : Failure) :
    partsOf [first, second] = first.parts ++ second.parts := by
  rw [partsOf, partsOf, partsOf, List.append_nil]

/-- Parts have no further parts. -/
theorem partsOf_partsOf (failures : List Failure) :
    partsOf (partsOf failures) = partsOf failures :=
  partsOf_of_single fun _ => isSeveral_eq_false_of_mem_partsOf

theorem partsOf_parts (failure : Failure) : partsOf failure.parts = failure.parts :=
  partsOf_of_single fun _ => failure.enumerates_parts.isSeveral_eq_false

theorem gathers_partsOf (failures : List Failure) :
    (several (partsOf failures)).Gathers failures :=
  ⟨_, _, rfl, (several failures).enumerates_parts, fun _ => isSeveral_eq_false_of_mem_partsOf⟩

theorem ofList?_cons (first : Failure) (rest : List Failure) :
    ofList? (first :: rest) = some (several (partsOf (first :: rest))) := rfl

theorem chain_eq (first second : Failure) :
    first.chain second = several (partsOf [first, second]) := by
  rw [chain, partsOf_pair]

theorem chain_assoc (first second third : Failure) :
    (first.chain second).chain third = first.chain (second.chain third) := by
  rw [chain, chain, chain, chain, parts, parts, partsOf_append, partsOf_append]
  simp only [partsOf_parts, List.append_assoc]

/-! ### Failures of configuration -/

theorem areConfiguration_eq (failures : List Failure) :
    areConfiguration failures = failures.all isConfiguration := by
  induction failures with
  | nil => rfl
  | cons failure rest ih => rw [areConfiguration, ih, List.all_cons]

mutual

/-- A failure is one of configuration if all its parts are. -/
theorem all_isConfiguration_parts (failure : Failure) :
    failure.parts.all isConfiguration = failure.isConfiguration := by
  cases failure with
  | several failures =>
    rw [parts, all_isConfiguration_partsOf failures, isConfiguration, areConfiguration_eq]
  | _ => exact Bool.and_true _

theorem all_isConfiguration_partsOf (failures : List Failure) :
    (partsOf failures).all isConfiguration = failures.all isConfiguration := by
  cases failures with
  | nil => rfl
  | cons failure rest =>
    rw [partsOf, List.all_append, List.all_cons, all_isConfiguration_parts failure,
      all_isConfiguration_partsOf rest]

end

theorem isConfiguration_several_partsOf (failures : List Failure) :
    (several (partsOf failures)).isConfiguration = failures.all isConfiguration := by
  rw [isConfiguration, areConfiguration_eq, all_isConfiguration_partsOf]

theorem isConfiguration_beneath (headings : List Heading) (failure : Failure) :
    (failure.beneath headings).isConfiguration = failure.isConfiguration := by
  rw [← isConfiguration_root, root_beneath, isConfiguration_root]

/-! ### The laws -/

/-- **Gathering loses nothing and can be done in any grouping.** Chained failures, and one made of a
list that is not empty, hold all that is single in what went in, in order and each once, and nothing
several. Chaining is associative, and gathering what was gathered changes nothing. What comes out is
a failure of configuration if all that went in are, and headings change neither that nor the
root. -/
theorem gathering_laws (first second third : Failure) (rest : List Failure)
    (headings : List Heading) :
    (first.chain second).chain third = first.chain (second.chain third) ∧
    (first.chain second).Gathers [first, second] ∧
    (first.chain second).isConfiguration = (first.isConfiguration && second.isConfiguration) ∧
    (∃ gathered, ofList? (first :: rest) = some gathered ∧ gathered.Gathers (first :: rest) ∧
      ofList? [gathered] = some gathered ∧
      gathered.isConfiguration = (first :: rest).all isConfiguration) ∧
    (first.beneath headings).root = first.root ∧
    (first.beneath headings).isConfiguration = first.isConfiguration := by
  refine ⟨chain_assoc first second third, ?_, ?_, ?_, root_beneath headings first,
    isConfiguration_beneath headings first⟩
  · rw [chain_eq]
    exact gathers_partsOf [first, second]
  · rw [chain_eq, isConfiguration_several_partsOf, List.all_cons, List.all_cons, List.all_nil,
      Bool.and_true]
  · refine ⟨_, ofList?_cons first rest, gathers_partsOf _, ?_, isConfiguration_several_partsOf _⟩
    rw [ofList?_cons, partsOf, parts, partsOf, List.append_nil, partsOf_partsOf]

/-- What is beneath a heading stays together. -/
example (text : String) (heading : Heading) :
    ofList? [.several [.system text, .several []],
      .within heading (.several [.system text, .unknownKind text])] =
    some (.several [.system text, .within heading (.several [.system text, .unknownKind text])]) :=
  rfl

end FolderBackup.Failure
