import FolderBackup.Proofs.Rules
import FolderBackup.Registry
import Mathlib.Data.List.Forall2

/-! What configurations resolve to.

An operation mirrors a configuration if it is of the kind that the configuration names, and the
operations of a pipeline mirror, in order, the steps that are listed for it
(`Registry.Mirrors`). Whatever a registry holds, a configuration that resolves resolves to an
operation that mirrors it, and everything in that operation obeys the rules of its kind
(`Registry.resolve_wellFormed`). Both follow by one induction, which goes through the
configuration as resolving does (`Registry.resolve_induction`). -/
namespace FolderBackup
open Yaml

/-! ### Entries by name -/

namespace Yaml.Entries

/-- The value under a name; the name may be tagged. -/
def named? (entries : Entries) (name : String) : Option Value :=
  (entries.find? fun entry => entry.1.text? == some name).map Prod.snd

/-- The configurations listed under a name: none if the name is missing, no list if anything
else stands there. -/
def steps? (entries : Entries) (name : String) : Option (List Entries) :=
  match entries.named? name with
  | none => some []
  | some value => (Plan.steps value).toOption

end Yaml.Entries

/-- A field of a record is read from what stands under its name. -/
theorem Shape.find_of_checked {fields : List (Field Value Mismatch)} {record : Value}
    {seen : List String} {entries : Entries} {named : Named Value}
    (h : Shape.checked fields record seen entries = .ok named) (name : String) :
    named.find [name] = entries.named? name := by
  induction entries generalizing seen named with
  | nil =>
    cases h
    rfl
  | cons entry rest ih =>
    obtain ⟨key, value⟩ := entry
    obtain ⟨keyName, hkey, h⟩ := bind_eq_ok_iff.mp h
    have hkeyName : key.text? = some keyName := by
      simp only [Source.text, Reading.text] at hkey
      unfold Value.text?
      split at hkey <;> simp_all [Reading.mistyped]
    split at h
    · cases h
    · next field _ =>
      split at h
      · cases h
      · obtain ⟨_, -, h⟩ := bind_eq_ok_iff.mp h
        obtain ⟨more, hmore, h⟩ := bind_eq_ok_iff.mp h
        cases h
        have hrest := ih hmore
        simp only [Named.find, Entries.named?, List.find?_cons, hkeyName] at hrest ⊢
        by_cases hname : keyName = name
        · simp [hname]
        · have hne : (some keyName == some name) = false := by simpa using hname
          simpa [hne, hname] using hrest

/-! ### Plans -/

/-- The transport of a kind of pipelines. -/
def Pipeline.Kind.transport : Pipeline.Kind → Option Transport
  | .backup => some .ssh
  | .command => none

/-- A plan has the transport of its kind and lists the steps that stand under the names of the
two halves, of which there is a local one. -/
structure Plan.IsListed (plan : Plan) (kind : Pipeline.Kind) (entries : Entries) : Prop where
  transport : plan.transport = kind.transport
  locals : entries.steps? "local" = some plan.locals
  remotes : entries.steps? "remote" = some plan.remotes
  nonempty : plan.locals ≠ []

theorem Plan.steps?_of_find {entries : Entries} {fields : List (Field Value Mismatch)}
    {named : Named Value} (hnamed : Shape.checked fields (.mapping entries) [] entries = .ok named)
    {name : String} {steps : List Entries}
    (h : (∃ tree, named.find [name] = some tree ∧ Plan.steps tree = .ok steps) ∨
      named.find [name] = none ∧ [] = steps) : entries.steps? name = some steps := by
  rw [Shape.find_of_checked hnamed] at h
  unfold Entries.steps?
  rcases h with ⟨tree, htree, hsteps⟩ | ⟨hnone, rfl⟩
  · simp [htree, hsteps, Except.toOption]
  · simp [hnone]

theorem Plan.isListed_of_ofEntries {kind : Pipeline.Kind} {entries : Entries} {plan : Plan}
    (h : Plan.ofEntries kind entries = .ok plan) : plan.IsListed kind entries := by
  cases kind with
  | backup =>
    obtain ⟨read, hread, hrules, rfl⟩ := Options.map_ofKind_eq_ok_iff.mp h
    obtain ⟨named, hnamed, hmake⟩ := Shape.exists_checked_of_read hread
    simp only [BackupPlan.shape, Shape.defaulted, Shape.make_seq, Shape.make_map,
      Shape.make_required, Shape.make_aliased] at hmake
    obtain ⟨_, remotes, ⟨_, locals, ⟨transport, _, rfl⟩, hlocals, rfl⟩, hremotes, rfl⟩ := hmake
    cases transport
    exact ⟨rfl, Plan.steps?_of_find hnamed (.inl hlocals), Plan.steps?_of_find hnamed hremotes,
      Violation.ofList_eq_nil_iff.mp hrules⟩
  | command =>
    obtain ⟨read, hread, hrules, rfl⟩ := Options.map_ofKind_eq_ok_iff.mp h
    obtain ⟨named, hnamed, hmake⟩ := Shape.exists_checked_of_read hread
    simp only [CommandPlan.shape, Shape.defaulted, Shape.make_seq, Shape.make_map,
      Shape.make_required, Shape.make_aliased] at hmake
    obtain ⟨_, remotes, ⟨locals, hlocals, rfl⟩, hremotes, rfl⟩ := hmake
    exact ⟨rfl, Plan.steps?_of_find hnamed (.inl hlocals), Plan.steps?_of_find hnamed hremotes,
      Violation.ofList_eq_nil_iff.mp hrules⟩

/-! ### Resolving -/

/-- A step weighs less than the steps it is one of. -/
theorem Plan.weight_lt_of_mem {step : Entries} {steps : List Entries} (h : step ∈ steps) :
    step.weight < Plan.stepsWeight steps := by
  induction steps with
  | nil => cases h
  | cons first rest ih =>
    simp only [Plan.stepsWeight]
    rcases List.mem_cons.mp h with rfl | h
    · omega
    · have := ih h
      omega

namespace Registry
variable {registry : Registry}

/-- A configuration names a kind under a field. -/
def Names (registry : Registry) (field : String) (entries : Entries) (kind : Operation.Kind) :
    Prop :=
  ∃ name, (entries.get? field).bind Value.text? = some name ∧ registry.get? name = some kind

/-- The operations are what the steps resolve to, one for each in order. -/
abbrev ResolvesAll (registry : Registry) : List Entries → List Operation → Prop :=
  List.Forall₂ fun step operation => registry.resolve stepField step = .ok operation

theorem names_of_kindOf {field name : String} {entries : Entries} {kind : Operation.Kind}
    (hname : nameIn entries field = .ok name) (hkind : registry.kindOf name = .ok kind) :
    registry.Names field entries kind := by
  unfold nameIn at hname
  unfold kindOf at hkind
  split at hname
  · next hfound =>
    split at hkind
    · next hget =>
      cases hname
      cases hkind
      exact ⟨name, hfound, hget⟩
    · cases hkind
  · cases hname

/-- Steps resolve to operations if and only if each does. -/
theorem resolveSteps_eq_ok_iff {steps : List Entries} {position : Nat}
    {operations : List Operation} :
    resolveSteps registry position steps = .ok operations ↔
      registry.ResolvesAll steps operations := by
  induction steps generalizing position operations with
  | nil => simp [resolveSteps, eq_comm]
  | cons step rest ih =>
    simp only [resolveSteps, bind_eq_ok_iff, underHeading_eq_ok_iff, ih, Except.ok.injEq,
      List.forall₂_cons_left_iff]
    constructor
    · rintro ⟨operation, hstep, others, hrest, rfl⟩
      exact ⟨operation, others, hstep, hrest, rfl⟩
    · rintro ⟨operation, others, hstep, hrest, rfl⟩
      exact ⟨operation, hstep, others, hrest, rfl⟩

/-- What a configuration that resolves holds: a step, or a plan all of whose steps resolve. -/
theorem resolve_cases {field : String} {entries : Entries} {operation : Operation}
    (h : registry.resolve field entries = .ok operation) :
    (∃ kind step, registry.Names field entries (.step kind) ∧
      Step.ofEntries kind (entries.erase field) = .ok step ∧ operation = .step step) ∨
    (∃ kind plan locals remotes, registry.Names field entries (.pipeline kind) ∧
      Plan.ofEntries kind (entries.erase field) = .ok plan ∧
      registry.ResolvesAll plan.locals locals ∧ registry.ResolvesAll plan.remotes remotes ∧
      operation = assemble plan.transport locals remotes) := by
  unfold resolve at h
  obtain ⟨name, hname, h⟩ := bind_eq_ok_iff.mp h
  obtain ⟨kind, hkind, h⟩ := bind_eq_ok_iff.mp h
  have hnames := names_of_kindOf hname hkind
  cases kind with
  | step kind =>
    obtain ⟨step, hstep, rfl⟩ := map_eq_ok_iff.mp (underHeading_eq_ok_iff.mp h)
    exact .inl ⟨kind, step, hnames, hstep, rfl⟩
  | pipeline kind =>
    have h := underHeading_eq_ok_iff.mp h
    split at h
    · cases h
    · next plan hplan =>
      obtain ⟨locals, hlocals, h⟩ := bind_eq_ok_iff.mp h
      obtain ⟨remotes, hremotes, h⟩ := bind_eq_ok_iff.mp h
      cases h
      rw [underHeading_eq_ok_iff, resolveSteps_eq_ok_iff] at hlocals hremotes
      exact .inr ⟨kind, plan, locals, remotes, hnames, hplan, hlocals, hremotes, rfl⟩

/-- What holds of every step read from a configuration, and of a pipeline as soon as it holds of
its operations, holds of whatever a configuration resolves to. -/
theorem resolve_induction {motive : String → Entries → Operation → Prop}
    (step : ∀ {field entries kind single}, registry.Names field entries (.step kind) →
      Step.ofEntries kind (entries.erase field) = .ok single →
      motive field entries (.step single))
    (pipeline : ∀ {field entries kind plan locals remotes},
      registry.Names field entries (.pipeline kind) →
      Plan.ofEntries kind (entries.erase field) = .ok plan →
      registry.ResolvesAll plan.locals locals → registry.ResolvesAll plan.remotes remotes →
      List.Forall₂ (motive stepField) plan.locals locals →
      List.Forall₂ (motive stepField) plan.remotes remotes →
      motive field entries (assemble plan.transport locals remotes))
    {field : String} {entries : Entries} {operation : Operation}
    (h : registry.resolve field entries = .ok operation) : motive field entries operation := by
  induction hweight : entries.weight using Nat.strongRecOn generalizing
    field entries operation with
  | ind weight ih =>
    subst hweight
    rcases resolve_cases h with ⟨kind, single, hnames, hstep, rfl⟩ |
      ⟨kind, plan, locals, remotes, hnames, hplan, hlocals, hremotes, rfl⟩
    · exact step hnames hstep
    · -- each step listed weighs less than the configuration, so the hypothesis is about it
      have hall {steps : List Entries} {operations : List Operation}
          (hlt : Plan.stepsWeight steps < (entries.erase field).weight)
          (hsteps : registry.ResolvesAll steps operations) :
          List.Forall₂ (motive stepField) steps operations := by
        have hle := Entries.weight_erase_le entries field
        have hmotive : ∀ step ∈ steps, ∀ operation, registry.resolve stepField step = .ok operation →
            motive stepField step operation := fun step hstep operation hresolve =>
          ih step.weight (by have := Plan.weight_lt_of_mem hstep; omega) hresolve rfl
        exact ((List.forall₂_and_left steps operations).mpr ⟨hmotive, hsteps⟩).imp
          fun step operation h => h.1 operation h.2
      have hlt := Plan.stepsWeight_lt hplan
      exact pipeline hnames hplan hlocals hremotes (hall hlt.1 hlocals) (hall hlt.2 hremotes)

/-- The operation is of the kind that a configuration names under a field, and its operations
are, in order, what the steps listed in the configuration resolve to and mirror. A command drops
the remote ones. -/
inductive Mirrors (registry : Registry) : String → Entries → Operation → Prop where
  | step {field entries kind single} :
      registry.Names field entries (.step kind) →
      Step.ofEntries kind (entries.erase field) = .ok single → single.kind = kind →
      Mirrors registry field entries (.step single)
  | backup {field entries localSteps remoteSteps locals remotes} :
      registry.Names field entries (.pipeline .backup) →
      (entries.erase field).steps? "local" = some localSteps →
      (entries.erase field).steps? "remote" = some remoteSteps →
      registry.ResolvesAll localSteps locals → registry.ResolvesAll remoteSteps remotes →
      List.Forall₂ (Mirrors registry stepField) localSteps locals →
      List.Forall₂ (Mirrors registry stepField) remoteSteps remotes →
      Mirrors registry field entries (.pipeline locals remotes (some .ssh))
  | command {field entries localSteps locals} :
      registry.Names field entries (.pipeline .command) →
      (entries.erase field).steps? "local" = some localSteps →
      registry.ResolvesAll localSteps locals →
      List.Forall₂ (Mirrors registry stepField) localSteps locals →
      Mirrors registry field entries (.pipeline locals [] none)

/-- What a configuration resolves to mirrors it. -/
theorem mirrors_of_resolve {field : String} {entries : Entries} {operation : Operation}
    (h : registry.resolve field entries = .ok operation) :
    registry.Mirrors field entries operation := by
  refine resolve_induction
    (fun hnames hstep => .step hnames hstep (Step.isSound_of_ofEntries hstep).1) ?_ h
  intro field entries kind plan locals remotes hnames hplan hlocals hremotes hlocal hremote
  obtain ⟨htransport, hlocalSteps, hremoteSteps, -⟩ := Plan.isListed_of_ofEntries hplan
  cases kind with
  | backup =>
    rw [htransport]
    exact .backup hnames hlocalSteps hremoteSteps hlocals hremotes hlocal hremote
  | command =>
    rw [htransport]
    exact .command hnames hlocalSteps hlocals hlocal

end Registry

/-! ### Everything in an operation -/

mutual

/-- The operation and everything in it. -/
def Operation.nodes : Operation → List Operation
  | .step single => [.step single]
  | .pipeline locals remotes transport =>
    .pipeline locals remotes transport ::
      (Operation.nodesAll locals ++ Operation.nodesAll remotes)

def Operation.nodesAll : List Operation → List Operation
  | [] => []
  | operation :: rest => operation.nodes ++ Operation.nodesAll rest

end

/-- What the rules of an operation's kind ask of it, apart from what they ask of the operations
in it. -/
def Operation.IsSound : Operation → Prop
  | .step single => single.IsSound
  | .pipeline locals _ _ => locals ≠ []

/-- What is in some operations is sound if what is in each is. -/
theorem Operation.isSound_of_forall₂ {steps : List Entries} {operations : List Operation}
    (h : List.Forall₂ (fun _ operation => ∀ node ∈ operation.nodes, node.IsSound) steps operations) :
    ∀ node ∈ Operation.nodesAll operations, node.IsSound := by
  induction h with
  | nil => simp [Operation.nodesAll]
  | cons hfirst _ ih =>
    intro node hnode
    rcases List.mem_append.mp hnode with hnode | hnode
    · exact hfirst node hnode
    · exact ih node hnode

namespace Registry
variable {registry : Registry}

/-- Everything in what a configuration resolves to is sound. -/
theorem isSound_of_resolve {field : String} {entries : Entries} {operation : Operation}
    (h : registry.resolve field entries = .ok operation) :
    ∀ node ∈ operation.nodes, node.IsSound := by
  refine resolve_induction (motive := fun _ _ operation => ∀ node ∈ operation.nodes, node.IsSound)
    ?_ ?_ h
  · intro field entries kind single _ hstep node hnode
    rw [Operation.nodes, List.mem_singleton] at hnode
    subst hnode
    exact (Step.isSound_of_ofEntries hstep).2
  · intro field entries kind plan locals remotes _ hplan hlocals _ hlocal hremote node hnode
    have hnonempty : locals ≠ [] := fun hnil =>
      (Plan.isListed_of_ofEntries hplan).nonempty (List.forall₂_nil_right_iff.mp (hnil ▸ hlocals))
    have hlocal := Operation.isSound_of_forall₂ hlocal
    have hremote := Operation.isSound_of_forall₂ hremote
    cases htransport : plan.transport <;> rw [htransport] at hnode <;>
      simp only [assemble, Operation.nodes, Operation.nodesAll, List.append_nil, List.mem_cons,
        List.mem_append] at hnode
    · rcases hnode with rfl | hnode
      · exact hnonempty
      · exact hlocal node hnode
    · rcases hnode with rfl | hnode | hnode
      · exact hnonempty
      · exact hlocal node hnode
      · exact hremote node hnode

/-- Whatever kinds a registry has its names stand for, a configuration that resolves resolves to
an operation that mirrors it, at any depth, and in which everything is sound. -/
theorem resolve_wellFormed (registry : Registry) {field : String} {entries : Entries}
    {operation : Operation} (h : registry.resolve field entries = .ok operation) :
    registry.Mirrors field entries operation ∧ ∀ node ∈ operation.nodes, node.IsSound :=
  ⟨mirrors_of_resolve h, isSound_of_resolve h⟩

/-- The registry of the usual names, one of which stands for another kind, and of two more. -/
def renamed : Registry :=
  ((builtin.register "offsite" (.pipeline .backup)).register "chain" (.pipeline .command)).register
    "tar" (.step .sync)

/-- The configuration of a step of a kind, with its options. -/
def stepNamed (name : String) (options : Entries) : Value :=
  .mapping (Options.entry stepField (.text name) :: options)

/-- The configuration of a backup that squeezes in an inner command and saves. -/
def nested : Entries :=
  [Options.entry pipelineField (.text "offsite"),
    Options.entry "connection" (.text "ssh"),
    Options.entry "local" (.sequence [stepNamed "chain" [Options.entry "local" (.sequence
      [stepNamed "tar" [],
        stepNamed "compress"
          [Options.entry "algorithm" (.text "gzip"), Options.entry "level" (.text "9")]])]]),
    Options.entry "remote" (.sequence
      [stepNamed "save backup" [Options.entry "dest_file" (.text "\x7bdate\x7d")]])]

theorem resolve_wellFormed_renamed :
    ∃ operation, renamed.resolve pipelineField nested = .ok operation ∧
      operation.nodes.length = 5 ∧ renamed.Mirrors pipelineField nested operation ∧
      ∀ node ∈ operation.nodes, node.IsSound := by
  have hcount : (renamed.resolve pipelineField nested).toOption.map (·.nodes.length) = some 5 := by
    decide +kernel
  obtain ⟨operation, hresolve, hlength⟩ := Option.map_eq_some_iff.mp hcount
  have hresolve := eq_ok_of_toOption hresolve
  exact ⟨operation, hresolve, hlength, resolve_wellFormed renamed hresolve⟩

end Registry

end FolderBackup
