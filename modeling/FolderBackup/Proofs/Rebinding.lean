import FolderBackup.Proofs.AnyEntryOrder
import FolderBackup.Proofs.FirstFault
import FolderBackup.Proofs.Violations
import Mathlib.Data.List.Induction

/-! Registering names again.

A registry is made by registrations, one after the other, on top of none or of the usual ones
(`Registry.History`). Each name stands for the kind that it was registered for last
(`Registry.History.get?_registry`), and nothing else is left of the registrations before: the names
are kept in order, so registrations that end alike make one registry
(`Registry.History.registry_eq_of_last?_eq`).

What a configuration describes follows from what names stand for, in the steps inside it as well as
at the top (`Registry.Means`). A name that was never registered stands for nothing wherever it is
reached, and one that is registered again for the new kind wherever it is
(`Registry.History.last_registration_wins`). -/
namespace FolderBackup
open Yaml

/-! ### Names and what they stand for -/

namespace Roster
variable {α : Type}

theorem get?_cons (first : String × α) (rest : Roster α) (name : String) :
    get? (first :: rest) name = if first.1 = name then some first.2 else rest.get? name := by
  unfold get?
  by_cases hname : first.1 = name
  · simp [hname]
  · simp [hname]

/-- Putting a thing under a name changes what is under that name only. -/
theorem get?_put (roster : Roster α) (name : String) (value : α) (other : String) :
    (roster.put name value).get? other =
      if name = other then some value else roster.get? other := by
  induction roster with
  | nil => exact get?_cons (name, value) [] other
  | cons first rest ih =>
    obtain ⟨present, old⟩ := first
    unfold put
    split
    · rw [get?_cons]
    · split
      · next heq =>
        subst heq
        rw [get?_cons, get?_cons]
        by_cases hother : name = other
        · rw [if_pos hother, if_pos hother]
        · rw [if_neg hother, if_neg hother, if_neg hother]
      · next hne =>
        rw [get?_cons, get?_cons, ih]
        by_cases hpresent : present = other
        · have hother : ¬ name = other := fun heq => hne (heq.trans hpresent.symm)
          rw [if_pos hpresent, if_neg hother, if_pos hpresent]
        · rw [if_neg hpresent, if_neg hpresent]

theorem IsSorted.get?_eq_some_iff {roster : Roster α} (h : roster.IsSorted) {name : String}
    {value : α} : roster.get? name = some value ↔ (name, value) ∈ roster := by
  constructor
  · exact mem_of_get?_eq_some
  · intro hmem
    induction roster with
    | nil => cases hmem
    | cons first rest ih =>
      obtain ⟨hfirst, hrest⟩ := List.pairwise_cons.1 h
      rw [get?_cons]
      obtain rfl | hlater := List.mem_cons.1 hmem
      · rw [if_pos rfl]
      · have hlt : first.1 < name := hfirst (name, value) hlater
        rw [if_neg (ne_of_lt hlt)]
        exact ih hrest hlater

/-- A roster is settled by what is under each name. -/
theorem IsSorted.eq_of_get?_eq {roster other : Roster α} (h : roster.IsSorted)
    (hother : other.IsSorted) (hsame : ∀ name, roster.get? name = other.get? name) :
    roster = other := by
  refine h.eq_of_mem_iff hother ?_
  intro entry
  rw [← h.get?_eq_some_iff, ← hother.get?_eq_some_iff, hsame]

/-- Of things put under one name, the one put there last is there. -/
theorem get?_ofList (entries : List (String × α)) (name : String) :
    (ofList entries).get? name =
      ((entries.filter fun entry => entry.1 = name).getLast?).map Prod.snd := by
  induction entries using List.reverseRecOn with
  | nil => rfl
  | append_singleton before entry ih =>
    have hput : ofList (before ++ [entry]) = (ofList before).put entry.1 entry.2 := by
      unfold ofList
      rw [List.foldl_append]
      rfl
    rw [hput, get?_put, ih, List.filter_append]
    by_cases hname : entry.1 = name
    · simp [hname]
    · simp [hname]

end Roster

namespace Registry

/-! ### Registrations -/

/-- What is there before any registration. -/
inductive Start where
  | empty
  | builtin
  deriving DecidableEq, Repr

namespace Start

/-- The registry that is there. -/
def registry : Start → Registry
  | .empty => Registry.empty
  | .builtin => Registry.builtin

/-- The names in it, and their kinds. -/
def entries : Start → List (String × Operation.Kind)
  | .empty => []
  | .builtin => Operation.Kind.all.map fun kind => (kind.name, kind)

theorem registry_eq (start : Start) : start.registry = Roster.ofList start.entries := by
  cases start with
  | empty => rfl
  | builtin =>
    show Registry.builtin = Roster.ofList (Operation.Kind.all.map fun kind => (kind.name, kind))
    unfold Roster.ofList
    rw [List.foldl_map]
    rfl

end Start

/-- Registrations, one after the other. -/
structure History where
  start : Start
  registrations : List (String × Operation.Kind)

namespace History

/-- The registry at the end. -/
def registry (history : History) : Registry :=
  history.registrations.foldl (fun registry entry => registry.register entry.1 entry.2)
    history.start.registry

/-- Everything registered, in order. -/
def entries (history : History) : List (String × Operation.Kind) :=
  history.start.entries ++ history.registrations

/-- The kind that a name was registered for last. -/
def last? (history : History) (name : String) : Option Operation.Kind :=
  ((history.entries.filter fun entry => entry.1 = name).getLast?).map Prod.snd

/-- A name was registered at some time. -/
def Registers (history : History) (name : String) : Prop :=
  ∃ kind, (name, kind) ∈ history.entries

variable (history : History)

theorem registry_eq : history.registry = Roster.ofList history.entries := by
  unfold registry entries
  rw [Start.registry_eq]
  unfold Roster.ofList
  rw [List.foldl_append]
  rfl

theorem isSorted_registry : history.registry.IsSorted := by
  rw [registry_eq]
  exact Roster.isSorted_ofList history.entries

/-- A name stands for the kind that it was registered for last. -/
theorem get?_registry (name : String) : history.registry.get? name = history.last? name := by
  rw [registry_eq]
  exact Roster.get?_ofList history.entries name

theorem registers_iff (name : String) :
    history.Registers name ↔ history.registry.contains name = true := by
  unfold Registry.contains Registers
  rw [get?_registry]
  unfold last?
  simp

/-- Registrations that end alike make one registry. -/
theorem registry_eq_of_last?_eq {first second : History}
    (h : ∀ name, first.last? name = second.last? name) : first.registry = second.registry := by
  refine first.isSorted_registry.eq_of_get?_eq second.isSorted_registry ?_
  intro name
  rw [get?_registry, get?_registry, h]

/-- The names are shown in order, each of them once. -/
theorem shown_registry : ∃ names : List String,
    names.Pairwise (· < ·) ∧ (∀ name, name ∈ names ↔ history.Registers name) ∧
      history.registry.shown =
        "\x7b" ++ String.intercalate ", " (names.map Text.quoted) ++ "\x7d" := by
  refine ⟨history.registry.map Prod.fst, ?_, ?_, ?_⟩
  · exact List.pairwise_map.2 history.isSorted_registry
  · intro name
    rw [registers_iff, ← Roster.get?_isSome_iff]
    rfl
  · unfold Registry.shown
    rw [List.map_map]
    rfl

end History

/-! ### What configurations describe -/

/-- What configurations describe if names stand for these kinds. In the steps of a pipeline the
names stand for the same. -/
inductive Means (meaning : String → Option Operation.Kind) : String → Entries → Operation → Prop where
  | step {field entries name kind single} :
      nameIn entries field = .ok name → meaning name = some (.step kind) →
      Step.ofEntries kind (entries.erase field) = .ok single →
      Means meaning field entries (.step single)
  | pipeline {field entries name kind plan locals remotes} :
      nameIn entries field = .ok name → meaning name = some (.pipeline kind) →
      Plan.ofEntries kind (entries.erase field) = .ok plan →
      List.Forall₂ (Means meaning stepField) plan.locals locals →
      List.Forall₂ (Means meaning stepField) plan.remotes remotes →
      Means meaning field entries (assemble plan.transport locals remotes)

section
variable {registry : Registry} {field name : String} {entries : Entries} {kind : Operation.Kind}

theorem nameIn_eq_ok_iff :
    nameIn entries field = .ok name ↔ (entries.get? field).bind Value.text? = some name := by
  unfold nameIn
  split
  · next found hfound =>
    rw [hfound, Except.ok.injEq, Option.some.injEq]
  · next hnone =>
    rw [hnone]
    exact iff_of_false (by rintro ⟨⟩) (by rintro ⟨⟩)

theorem names_iff : registry.Names field entries kind ↔
    ∃ name, nameIn entries field = .ok name ∧ registry.get? name = some kind := by
  unfold Names
  simp only [nameIn_eq_ok_iff]

/-- A configuration resolves to what it describes. -/
theorem means_of_resolve {operation : Operation}
    (h : registry.resolve field entries = .ok operation) :
    Means registry.get? field entries operation := by
  apply resolve_induction _ _ h
  · intro field entries kind single hnames hstep
    obtain ⟨name, hname, hkind⟩ := names_iff.1 hnames
    exact .step hname hkind hstep
  · intro field entries kind plan locals remotes hnames hplan _ _ hlocals hremotes
    obtain ⟨name, hname, hkind⟩ := names_iff.1 hnames
    exact .pipeline hname hkind hplan hlocals hremotes

/-- What a configuration describes, it resolves to. -/
theorem resolve_of_means {operation : Operation} (h : Means registry.get? field entries operation) :
    registry.resolve field entries = .ok operation := by
  induction hweight : entries.weight using Nat.strongRecOn generalizing field entries operation with
  | ind weight ih =>
    subst hweight
    cases h with
    | step hname hkind hstep => exact resolve_step (names_iff.2 ⟨_, hname, hkind⟩) hstep
    | @pipeline _ _ _ _ plan locals remotes hname hkind hplan hlocals hremotes =>
      have hle := Entries.weight_erase_le entries field
      have hlt := Plan.stepsWeight_lt hplan
      -- each step listed weighs less than the configuration, so the hypothesis is about it
      have hall {steps : List Entries} {operations : List Operation}
          (hsteps : Plan.stepsWeight steps < entries.weight)
          (heach : List.Forall₂ (Means registry.get? stepField) steps operations) :
          registry.ResolvesAll steps operations := by
        have hmeans : ∀ step ∈ steps, ∀ operation, Means registry.get? stepField step operation →
            registry.resolve stepField step = .ok operation := by
          intro step hstep operation hmeans
          exact ih step.weight (Nat.lt_trans (Plan.weight_lt_of_mem hstep) hsteps) hmeans rfl
        exact ((List.forall₂_and_left steps operations).2 ⟨hmeans, heach⟩).imp
          fun step operation hstep => hstep.1 operation hstep.2
      exact resolve_pipeline (names_iff.2 ⟨_, hname, hkind⟩) hplan (hall (by omega) hlocals)
        (hall (by omega) hremotes)

theorem resolve_eq_ok_iff_means {operation : Operation} :
    registry.resolve field entries = .ok operation ↔ Means registry.get? field entries operation :=
  ⟨means_of_resolve, resolve_of_means⟩

/-- A configuration in which a name is reached that is not there fails because of it, or because of
something wrong before it. -/
theorem resolve_of_unregistered {node : Node} {earlier later : List Node}
    (hnodes : registry.nodes field entries = earlier ++ node :: later)
    (hname : nameIn node.entries node.field = .ok name) (h : registry.get? name = none) :
    ∃ failure, registry.resolve field entries = .error failure ∧
      ((∀ other ∈ earlier, other.check registry = .ok ()) ∧ failure.root = .unknownKind name ∨
        ∃ other ∈ earlier, other.check registry = .error failure.root) := by
  have hresolve := failureOf_resolve registry field entries
  rw [hnodes, List.findSome?_append, List.findSome?_cons] at hresolve
  cases hearlier : earlier.findSome? (Node.failure? registry) with
  | some failure =>
    obtain ⟨before, other, after, rfl, hother, -⟩ := List.findSome?_eq_some_iff.1 hearlier
    obtain ⟨cause, hcheck, hroot, -⟩ := Node.failure?_eq_some_iff.1 hother
    rw [hearlier] at hresolve
    refine ⟨failure, failureOf_eq_some_iff.1 hresolve, .inr ⟨other, ?_, hroot ▸ hcheck⟩⟩
    exact List.mem_append_right before List.mem_cons_self
  | none =>
    have hall : ∀ other ∈ earlier, other.check registry = .ok () := by
      intro other hother
      exact Node.failure?_eq_none_iff.1 (List.findSome?_eq_none_iff.1 hearlier other hother)
    have hcheck : node.check registry = .error (.unknownKind name) := by
      unfold Node.check kindOf
      rw [hname]
      simp only [bind, Except.bind, h]
    rw [hearlier, Option.none_or] at hresolve
    cases hnode : node.failure? registry with
    | none =>
      rw [Node.failure?_eq_none_iff.1 hnode] at hcheck
      cases hcheck
    | some failure =>
      obtain ⟨cause, hcause, hroot, -⟩ := Node.failure?_eq_some_iff.1 hnode
      rw [hnode] at hresolve
      rw [hcheck] at hcause
      cases hcause
      exact ⟨failure, failureOf_eq_some_iff.1 hresolve, .inl ⟨hall, hroot⟩⟩

end

/-! ### Registering once more -/

/-- What names stand for once a name stands for a kind. -/
def rebound (meaning : String → Option Operation.Kind) (name : String) (kind : Operation.Kind) :
    String → Option Operation.Kind :=
  fun other => if name = other then some kind else meaning other

section
variable (registry : Registry) (name : String) (kind : Operation.Kind)

theorem get?_register :
    (registry.register name kind).get? = rebound registry.get? name kind := by
  funext other
  exact registry.get?_put name kind other

theorem kindOf_register (other : String) : (registry.register name kind).kindOf other =
    if name = other then .ok kind else registry.kindOf other := by
  unfold kindOf
  rw [get?_register]
  unfold rebound
  by_cases hother : name = other
  · rw [if_pos hother, if_pos hother]
  · rw [if_neg hother, if_neg hother]

/-- Wherever the name is reached, its options are now those of the kind. -/
theorem Node.check_register {node : Node} (h : nameIn node.entries node.field = .ok name) :
    node.check (registry.register name kind) =
      checkOptions (node.entries.erase node.field) kind := by
  unfold check
  simp only [h, bind, Except.bind, kindOf_register, if_true]

/-- Wherever another name is reached, nothing has changed. -/
theorem Node.check_register_of_ne {node : Node} (h : nameIn node.entries node.field ≠ .ok name) :
    node.check (registry.register name kind) = node.check registry := by
  unfold check
  cases hname : nameIn node.entries node.field with
  | error failure => rfl
  | ok other =>
    have hne : ¬ name = other := fun heq => h (heq ▸ hname)
    simp only [bind, Except.bind, kindOf_register, if_neg hne]

end

namespace History

/-- **The last registration of a name counts**, at any depth. Registrations that end with the same
kind for every name cannot be told apart. The registry shows each name once and in order. A name
that was never registered is what a configuration fails for that reaches it, unless something is
wrong before. If a name is registered once more, the new kind is what it stands for in a
configuration and in all steps inside it, and all others stand for what they did. -/
theorem last_registration_wins {first second : History}
    (h : ∀ name, first.last? name = second.last? name) :
    ((∀ name, first.registry.contains name = second.registry.contains name) ∧
      first.registry.shown = second.registry.shown ∧
      ∀ field entries,
        first.registry.resolve field entries = second.registry.resolve field entries) ∧
    (∃ names : List String, names.Pairwise (· < ·) ∧
      (∀ name, name ∈ names ↔ first.Registers name) ∧
      first.registry.shown =
        "\x7b" ++ String.intercalate ", " (names.map Text.quoted) ++ "\x7d") ∧
    (∀ field entries earlier node later name,
      first.registry.nodes field entries = earlier ++ node :: later →
      nameIn node.entries node.field = .ok name → ¬ first.Registers name →
      ∃ failure, first.registry.resolve field entries = .error failure ∧
        ((∀ other ∈ earlier, other.check first.registry = .ok ()) ∧
            failure.root = .unknownKind name ∨
          ∃ other ∈ earlier, other.check first.registry = .error failure.root)) ∧
    ∀ name kind,
      (∀ field entries operation,
        (first.registry.register name kind).resolve field entries = .ok operation ↔
          Means (rebound first.last? name kind) field entries operation) ∧
      (∀ node : Node, nameIn node.entries node.field = .ok name →
        node.check (first.registry.register name kind) =
          Node.checkOptions (node.entries.erase node.field) kind) ∧
      ∀ node : Node, nameIn node.entries node.field ≠ .ok name →
        node.check (first.registry.register name kind) = node.check first.registry := by
  refine ⟨?_, first.shown_registry, ?_, ?_⟩
  · rw [registry_eq_of_last?_eq h]
    exact ⟨fun _ => rfl, rfl, fun _ _ => rfl⟩
  · intro field entries earlier node later name hnodes hname hunregistered
    apply resolve_of_unregistered hnodes hname
    have hcontains : first.registry.contains name = false := by
      rw [← Bool.not_eq_true, ← registers_iff]
      exact hunregistered
    exact Option.isNone_iff_eq_none.1 (Option.isSome_eq_false_iff.1 hcontains)
  · intro name kind
    have hlast : first.registry.get? = first.last? := by
      funext other
      exact first.get?_registry other
    refine ⟨?_, ?_, ?_⟩
    · intro field entries operation
      rw [resolve_eq_ok_iff_means, get?_register, hlast]
    · intro node hname
      exact Node.check_register first.registry name kind hname
    · intro node hname
      exact Node.check_register_of_ne first.registry name kind hname

/-- A name is registered for another kind than usual, after a new name for pipelines. -/
def decided : History :=
  { start := .builtin, registrations := [("chain", .pipeline .command), ("tar", .step .sync)] }

/-- The same names, each registered for something else before. -/
def reconsidered : History :=
  { start := .builtin
    registrations := [("tar", .step .push), ("chain", .step .archive), ("tar", .step .sync),
      ("chain", .pipeline .command)] }

/-- The configuration of a command with one step. -/
def chained : Entries :=
  [Options.entry pipelineField (.text "chain"),
    Options.entry "local" (.sequence [stepNamed "tar" []])]

theorem last_registration_wins_reconsidered :
    (∀ name, reconsidered.last? name = decided.last? name) ∧
      ∃ operation, reconsidered.registry.resolve pipelineField chained = .ok operation ∧
        operation.reached = [.sync] := by
  have hlast : ∀ name, reconsidered.last? name = decided.last? name := by
    intro name
    unfold last? entries reconsidered decided
    rw [List.filter_append, List.filter_append, List.getLast?_append, List.getLast?_append]
    by_cases htar : "tar" = name
    · subst htar
      rfl
    · by_cases hchain : "chain" = name
      · subst hchain
        rfl
      · simp [htar, hchain]
  refine ⟨hlast, ?_⟩
  rw [(last_registration_wins hlast).1.2.2]
  have hreached : (decided.registry.resolve pipelineField chained).toOption.map
      Operation.reached = some [.sync] := by
    decide +kernel
  obtain ⟨operation, hresolve, hsteps⟩ := Option.map_eq_some_iff.1 hreached
  exact ⟨operation, eq_ok_of_toOption hresolve, hsteps⟩

end History

end Registry

end FolderBackup
