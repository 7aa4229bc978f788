import FolderBackup.Proofs.Resolved

/-! The first fault of a configuration.

A configuration has further ones inside it: the steps of a pipeline, and theirs. They are gone
through in order, each before its local steps and those before its remote steps, also where the
remote steps are dropped (`Registry.nodes`). Each can have a fault of its own, which does not depend
on the others: no kind is named, nobody knows the kind, or the options do not belong to it
(`Registry.Node.check`).

A configuration fails to resolve if and only if there is a fault, and then for the first one. The
headings of the failure spell the way there (`Registry.resolve_eq_error_iff`). -/
namespace FolderBackup
open Yaml

variable {ε α β γ : Type}

/-! ### What results fail with -/

/-- What a result fails with, if it does. -/
def failureOf : Except ε α → Option ε
  | .ok _ => none
  | .error failure => some failure

theorem failureOf_eq_some_iff {result : Except ε α} {failure : ε} :
    failureOf result = some failure ↔ result = .error failure := by
  cases result <;> simp [failureOf]

theorem failureOf_eq_none_iff {result : Except ε Unit} :
    failureOf result = none ↔ result = .ok () := by
  cases result <;> simp [failureOf]

theorem failureOf_map (make : α → β) (result : Except ε α) :
    failureOf (make <$> result) = failureOf result := by
  cases result <;> rfl

theorem failureOf_discard (result : Except ε α) :
    failureOf (discard result) = failureOf result := by
  cases result <;> rfl

/-- Of two results that are both needed, the first one that fails counts. -/
theorem failureOf_seq (first : Except ε α) (second : Except ε β) (make : α → β → γ) :
    failureOf (do
      let value ← first
      let other ← second
      .ok (make value other)) = (failureOf first).or (failureOf second) := by
  cases first <;> cases second <;> rfl

/-- So it does of two checks. -/
theorem failureOf_then (first second : Except ε Unit) :
    failureOf (first >>= fun _ => second) = (failureOf first).or (failureOf second) := by
  cases first <;> rfl

theorem failureOf_underHeading (heading : Heading) (result : Except Failure α) :
    failureOf (underHeading heading result) = (failureOf result).map (.within heading) := by
  cases result <;> rfl

/-- If moving an item changes what is found in it, moving all changes what is found first. -/
theorem findSome?_map_of_forall {move : α → α} {find : α → Option β} {change : β → β}
    (h : ∀ item, find (move item) = (find item).map change) (items : List α) :
    (items.map move).findSome? find = (items.findSome? find).map change := by
  rw [List.findSome?_map, List.map_findSome?]
  congr 1
  funext item
  exact h item

/-! ### Failures beneath headings -/

namespace Failure

/-- The failure put under some headings, the first one outermost. -/
def beneath (headings : List Heading) (failure : Failure) : Failure :=
  headings.foldr .within failure

@[simp] theorem beneath_nil (failure : Failure) : failure.beneath [] = failure := rfl

@[simp] theorem beneath_cons (heading : Heading) (rest : List Heading) (failure : Failure) :
    failure.beneath (heading :: rest) = .within heading (failure.beneath rest) := rfl

theorem beneath_append (outer inner : List Heading) (failure : Failure) :
    failure.beneath (outer ++ inner) = (failure.beneath inner).beneath outer := by
  rw [beneath, List.foldr_append]
  rfl

@[simp] theorem root_beneath (headings : List Heading) (failure : Failure) :
    (failure.beneath headings).root = failure.root := by
  induction headings with
  | nil => rfl
  | cons heading rest ih => exact ih

theorem headings_beneath (headings : List Heading) (failure : Failure) :
    (failure.beneath headings).headings = headings ++ failure.headings := by
  induction headings with
  | nil => rfl
  | cons heading rest ih => exact congrArg (heading :: ·) ih

/-- A failure is its root under its headings. -/
theorem beneath_headings_root (failure : Failure) :
    failure.root.beneath failure.headings = failure := by
  match failure with
  | .within heading inner => exact congrArg (Failure.within heading) (beneath_headings_root inner)
  | .system _ | .violations _ | .document _ | .unreadable _ | .misconfigured _ | .unknownKind _
  | .noReverse _ | .commandFailed _ _ _ | .several _ => rfl

/-- A failure without headings is its own root. -/
theorem root_eq_self {failure : Failure} (h : failure.headings = []) : failure.root = failure := by
  have hself := beneath_headings_root failure
  rwa [h, beneath_nil] at hself

end Failure

/-- Whatever a result fails with is without headings. -/
def FailsBare (result : Except Failure α) : Prop :=
  ∀ failure, result = .error failure → failure.headings = []

namespace FailsBare

theorem ok (value : α) : FailsBare (.ok value) := by
  rintro _ ⟨⟩

theorem error {failure : Failure} (h : failure.headings = []) :
    FailsBare (.error failure : Except Failure α) := by
  rintro _ ⟨⟩
  exact h

theorem bind {result : Except Failure α} {next : α → Except Failure β} (h : FailsBare result)
    (hnext : ∀ value, FailsBare (next value)) : FailsBare (result >>= next) := by
  cases result with
  | error failure => exact .error (h failure rfl)
  | ok value => exact hnext value

theorem map {result : Except Failure α} (h : FailsBare result) (make : α → β) :
    FailsBare (make <$> result) := by
  cases result with
  | error failure => exact .error (h failure rfl)
  | ok value => exact .ok (make value)

/-- What is reported under headings is what the result fails with, and those headings are all that
is over it. -/
theorem beneath_eq_some_iff {result : Except Failure α} (h : FailsBare result)
    {headings : List Heading} {failure : Failure} :
    (failureOf result).map (Failure.beneath headings) = some failure ↔
      ∃ cause, result = .error cause ∧ failure.root = cause ∧ failure.headings = headings := by
  rw [Option.map_eq_some_iff]
  refine exists_congr fun cause => ?_
  rw [failureOf_eq_some_iff]
  refine and_congr_right fun hresult => ⟨?_, ?_⟩
  · rintro rfl
    have hbare := h cause hresult
    rw [Failure.root_beneath, Failure.headings_beneath, hbare, List.append_nil]
    exact ⟨Failure.root_eq_self hbare, rfl⟩
  · rintro ⟨rfl, rfl⟩
    exact failure.beneath_headings_root

theorem ofKind [Options α] (kind : String) (entries : Entries) :
    FailsBare (Options.ofKind kind entries : Except Failure α) := by
  rw [Options.ofKind]
  split
  · exact .ok _
  · exact .error rfl

theorem ofEntries_step (kind : Step.Kind) (entries : Entries) :
    FailsBare (Step.ofEntries kind entries) := by
  cases kind with
  | archive | sync => exact (ofKind _ entries).bind fun _ => .ok _
  | compress | encrypt | sign | push => exact (ofKind _ entries).map _
  | save =>
    refine (ofKind _ entries).bind fun options => map ?_ _
    rw [Template.checked]
    split
    · exact .ok _
    · exact .error rfl

theorem ofEntries_plan (kind : Pipeline.Kind) (entries : Entries) :
    FailsBare (Plan.ofEntries kind entries) := by
  cases kind with
  | backup | command => exact (ofKind _ entries).map _

end FailsBare

namespace Registry

/-! ### Configurations inside each other -/

/-- The two halves of a pipeline. -/
inductive Half where
  | locals
  | remotes
  deriving DecidableEq, Repr

/-- That something in a half is wrong. -/
def Half.complaint : Half → String
  | .locals => "Local operations are invalid"
  | .remotes => "Remote operations are invalid"

/-- The way from a pipeline, known by the name of its kind, to one of its steps. The first step of
a half is at position one. -/
structure Turn where
  kind : String
  half : Half
  position : Nat
  deriving DecidableEq, Repr

/-- That an operation of a kind cannot be loaded. -/
def loadingComplaint (kind : String) : String :=
  "Loading " ++ Text.quoted kind ++ " operation failed"

/-- What is said about a pipeline when a step of it is wrong. -/
def Turn.complaints (turn : Turn) : List String :=
  [loadingComplaint turn.kind, turn.half.complaint,
    "Step #" ++ toString turn.position ++ " is invalid"]

/-- A configuration inside another one, or that one itself: the way to it, the field that names its
kind, and its entries. -/
structure Node where
  way : List Turn
  field : String
  entries : Entries

namespace Node

/-- The node as seen from a pipeline further up. -/
def below (turn : Turn) (node : Node) : Node :=
  { node with way := turn :: node.way }

/-- The name of the node's kind, if it names one that the registry has. -/
def knownKind? (registry : Registry) (node : Node) : Option String :=
  ((node.entries.get? node.field).bind Value.text?).filter registry.contains

/-- Whether options belong to a kind of operation. The steps of a pipeline need only be listed, and
are not gone into. -/
def checkOptions (options : Entries) : Operation.Kind → Except Failure Unit
  | .step kind => discard (Step.ofEntries kind options)
  | .pipeline kind => discard (Plan.ofEntries kind options)

/-- Whether the node is right by itself: its kind is known, and its own options are read. -/
def check (registry : Registry) (node : Node) : Except Failure Unit := do
  let name ← nameIn node.entries node.field
  let kind ← registry.kindOf name
  checkOptions (node.entries.erase node.field) kind

/-- What is said about a fault of the node, outermost first: the way to it, and its own kind if
that is known. -/
def complaints (registry : Registry) (node : Node) : List String :=
  node.way.flatMap Turn.complaints ++ (node.knownKind? registry).toList.map loadingComplaint

/-- The failure that a fault of the node is reported as. -/
def failure? (registry : Registry) (node : Node) : Option Failure :=
  (failureOf (node.check registry)).map
    (Failure.beneath ((node.complaints registry).map .message))

end Node

/-- The name of the kind of a pipeline, and its plan, if a configuration describes one. -/
def planIn? (registry : Registry) (field : String) (entries : Entries) : Option (String × Plan) :=
  match nameIn entries field with
  | .error _ => none
  | .ok name =>
    match registry.kindOf name with
    | .ok (.pipeline kind) => (Plan.ofEntries kind (entries.erase field)).toOption.map (name, ·)
    | _ => none

theorem stepsWeight_lt_of_planIn? {registry : Registry} {field : String} {entries : Entries}
    {name : String} {plan : Plan} (h : registry.planIn? field entries = some (name, plan)) :
    Plan.stepsWeight plan.locals < entries.weight ∧
      Plan.stepsWeight plan.remotes < entries.weight := by
  have hle := Entries.weight_erase_le entries field
  rw [planIn?] at h
  split at h
  · cases h
  · split at h
    · obtain ⟨found, hfound, heq⟩ := Option.map_eq_some_iff.mp h
      obtain ⟨-, rfl⟩ := Prod.mk.inj heq
      obtain ⟨hlocals, hremotes⟩ := Plan.stepsWeight_lt (eq_ok_of_toOption hfound)
      omega
    · cases h

mutual

/-- A configuration and all inside it: itself, then what is in its local steps, then what is in its
remote steps. There is nothing in it if it is not right by itself. -/
def nodes (registry : Registry) (field : String) (entries : Entries) : List Node :=
  { way := [], field, entries } ::
    match _h : registry.planIn? field entries with
    | none => []
    | some (name, plan) =>
      nodesInSteps registry (Turn.mk name .locals) 1 plan.locals ++
        nodesInSteps registry (Turn.mk name .remotes) 1 plan.remotes
termination_by entries.weight
decreasing_by
  · exact (stepsWeight_lt_of_planIn? _h).1
  · exact (stepsWeight_lt_of_planIn? _h).2

/-- What is in some steps, the first of which has the position given. -/
def nodesInSteps (registry : Registry) (turn : Nat → Turn) (position : Nat)
    (steps : List Entries) : List Node :=
  match steps with
  | [] => []
  | step :: rest =>
    (nodes registry stepField step).map (Node.below (turn position)) ++
      nodesInSteps registry turn (position + 1) rest
termination_by Plan.stepsWeight steps
decreasing_by
  · simp only [Plan.stepsWeight]
    omega
  · simp only [Plan.stepsWeight]
    omega

end

/-! ### Faults -/

namespace Node
variable (registry : Registry)

theorem complaints_below (turn : Turn) (node : Node) :
    (node.below turn).complaints registry = turn.complaints ++ node.complaints registry := by
  rw [complaints, complaints, below, List.flatMap_cons, List.append_assoc]
  rfl

/-- A fault is the same seen from further up, and reported with what is said on the way there. -/
theorem failure?_below (turn : Turn) (node : Node) :
    (node.below turn).failure? registry =
      (node.failure? registry).map (Failure.beneath (turn.complaints.map .message)) := by
  have hbeneath : Failure.beneath (((node.below turn).complaints registry).map .message) =
      Failure.beneath (turn.complaints.map .message) ∘
        Failure.beneath ((node.complaints registry).map .message) := by
    funext cause
    rw [complaints_below, List.map_append, Failure.beneath_append]
    rfl
  rw [failure?, failure?, hbeneath, Option.map_map]
  rfl

theorem findSome?_failure?_below (turn : Turn) (nodes : List Node) :
    (nodes.map (below turn)).findSome? (failure? registry) =
      (nodes.findSome? (failure? registry)).map
        (Failure.beneath (turn.complaints.map .message)) :=
  findSome?_map_of_forall (failure?_below registry turn) nodes

end Node

section
variable {registry : Registry}

/-- Steps fail for the first fault in them. -/
theorem failureOf_resolveSteps {kind : String} {half : Half} {steps : List Entries}
    (h : ∀ step ∈ steps, failureOf (registry.resolve stepField step) =
      (registry.nodes stepField step).findSome? (Node.failure? registry)) (position : Nat) :
    (nodesInSteps registry (Turn.mk kind half) position steps).findSome? (Node.failure? registry) =
      (failureOf (resolveSteps registry position steps)).map
        (Failure.beneath [loadingHeading kind, .message half.complaint]) := by
  induction steps generalizing position with
  | nil =>
    rw [nodesInSteps, resolveSteps]
    rfl
  | cons step rest ih =>
    obtain ⟨hstep, hrest⟩ := List.forall_mem_cons.1 h
    rw [nodesInSteps, resolveSteps, failureOf_seq, failureOf_underHeading, hstep,
      List.findSome?_append, Node.findSome?_failure?_below, ih hrest, Option.map_or,
      Option.map_map]
    rfl

theorem planIn?_eq_some {field name : String} {entries : Entries} {kind : Pipeline.Kind}
    {plan : Plan} (hname : nameIn entries field = .ok name)
    (hkind : registry.kindOf name = .ok (.pipeline kind))
    (hplan : Plan.ofEntries kind (entries.erase field) = .ok plan) :
    registry.planIn? field entries = some (name, plan) := by
  simp [planIn?, hname, hkind, hplan, Except.toOption]

/-- The name is known if it stands for a kind. -/
theorem contains_of_kindOf {name : String} {kind : Operation.Kind}
    (h : registry.kindOf name = .ok kind) : registry.contains name = true := by
  rw [kindOf] at h
  split at h
  · next hfound => rw [contains, hfound, Option.isSome_some]
  · cases h

theorem contains_of_kindOf_error {name : String} {cause : Failure}
    (h : registry.kindOf name = .error cause) : registry.contains name = false := by
  rw [kindOf] at h
  split at h
  · cases h
  · next hfound => rw [contains, hfound, Option.isSome_none]

/-- A node whose kind nobody knows, or that names none, has that for a fault. -/
theorem Node.failure?_of_unknown {field : String} {entries : Entries} {cause : Failure}
    (h : (nameIn entries field >>= registry.kindOf) = .error cause) :
    Node.failure? registry { way := [], field, entries } = some cause := by
  have hcheck : Node.check registry { way := [], field, entries } = .error cause := by
    rw [check, ← bind_assoc, h]
    rfl
  have hnone : Node.knownKind? registry { way := [], field, entries } = none := by
    cases hname : (entries.get? field).bind Value.text? with
    | none => rw [knownKind?, hname, Option.filter_none]
    | some name =>
      rw [nameIn, hname] at h
      rw [knownKind?, hname, Option.filter_some, contains_of_kindOf_error h]
      rfl
  rw [failure?, hcheck, complaints, hnone]
  rfl

/-- A node whose kind is known is reported under that. -/
theorem Node.failure?_of_known {field name : String} {entries : Entries} {kind : Operation.Kind}
    (hname : nameIn entries field = .ok name) (hkind : registry.kindOf name = .ok kind) :
    Node.failure? registry { way := [], field, entries } =
      (failureOf (checkOptions (entries.erase field) kind)).map
        (.within (loadingHeading name)) := by
  have hcheck : Node.check registry { way := [], field, entries } =
      checkOptions (entries.erase field) kind := by
    rw [check, hname]
    simp only [bind, Except.bind, hkind]
  have hknown : Node.knownKind? registry { way := [], field, entries } = some name := by
    rw [nameIn] at hname
    split at hname
    · next found hfound =>
      cases hname
      rw [knownKind?, hfound, Option.filter_some, contains_of_kindOf hkind]
      rfl
    · cases hname
  rw [failure?, hcheck, complaints, hknown]
  rfl

theorem nodes_of_planIn?_eq_none {field : String} {entries : Entries}
    (h : registry.planIn? field entries = none) :
    registry.nodes field entries = [{ way := [], field, entries }] := by
  rw [nodes]
  split
  · rfl
  · next hsome => rw [h] at hsome; cases hsome

theorem nodes_of_planIn?_eq_some {field name : String} {entries : Entries} {plan : Plan}
    (h : registry.planIn? field entries = some (name, plan)) :
    registry.nodes field entries = { way := [], field, entries } ::
      (nodesInSteps registry (Turn.mk name .locals) 1 plan.locals ++
        nodesInSteps registry (Turn.mk name .remotes) 1 plan.remotes) := by
  rw [nodes]
  split
  · next hnone => rw [h] at hnone; cases hnone
  · next hsome =>
    rw [h] at hsome
    cases hsome
    rfl

theorem resolve_of_unknown {field : String} {entries : Entries} {cause : Failure}
    (h : (nameIn entries field >>= registry.kindOf) = .error cause) :
    registry.resolve field entries = .error cause := by
  rw [resolve]
  cases hname : nameIn entries field with
  | error failure =>
    rw [hname] at h
    cases h
    rfl
  | ok name =>
    rw [hname] at h
    have hkind : registry.kindOf name = .error cause := h
    simp only [bind, Except.bind, hkind]

theorem resolve_of_step {field name : String} {entries : Entries} {kind : Step.Kind}
    (hname : nameIn entries field = .ok name) (hkind : registry.kindOf name = .ok (.step kind)) :
    registry.resolve field entries =
      underHeading (loadingHeading name) (.step <$> Step.ofEntries kind (entries.erase field)) := by
  rw [resolve, hname]
  simp only [bind, Except.bind, hkind]

theorem resolve_of_pipeline {field name : String} {entries : Entries} {kind : Pipeline.Kind}
    (hname : nameIn entries field = .ok name)
    (hkind : registry.kindOf name = .ok (.pipeline kind)) :
    registry.resolve field entries = underHeading (loadingHeading name) (do
      let plan ← Plan.ofEntries kind (entries.erase field)
      let locals ← underHeading localsHeading (resolveSteps registry 1 plan.locals)
      let remotes ← underHeading remotesHeading (resolveSteps registry 1 plan.remotes)
      .ok (assemble plan.transport locals remotes)) := by
  rw [resolve, hname]
  simp only [bind, Except.bind, hkind]
  congr 1
  split
  · next hplan => rw [hplan]
  · next hplan => rw [hplan]

/-- A configuration fails to resolve for the first fault in it. -/
theorem failureOf_resolve (registry : Registry) (field : String) (entries : Entries) :
    failureOf (registry.resolve field entries) =
      (registry.nodes field entries).findSome? (Node.failure? registry) := by
  induction hweight : entries.weight using Nat.strongRecOn generalizing field entries with
  | ind weight ih =>
    subst hweight
    cases hlookup : nameIn entries field >>= registry.kindOf with
    | error cause =>
      rw [nodes, List.findSome?_cons, Node.failure?_of_unknown hlookup,
        resolve_of_unknown hlookup]
      rfl
    | ok kind =>
      obtain ⟨name, hname, hkind⟩ := bind_eq_ok_iff.mp hlookup
      have hfirst := Node.failure?_of_known hname hkind
      cases kind with
      | step kind =>
        have hnone : registry.planIn? field entries = none := by
          simp only [planIn?, hname, hkind]
        rw [Node.checkOptions, failureOf_discard] at hfirst
        rw [nodes_of_planIn?_eq_none hnone, List.findSome?_singleton, hfirst,
          resolve_of_step hname hkind, failureOf_underHeading, failureOf_map]
      | pipeline kind =>
        rw [resolve_of_pipeline hname hkind, failureOf_underHeading]
        cases hplan : Plan.ofEntries kind (entries.erase field) with
        | error cause =>
          have hnone : registry.planIn? field entries = none := by
            simp only [planIn?, hname, hkind, hplan, Except.toOption, Option.map_none]
          rw [Node.checkOptions, hplan] at hfirst
          rw [nodes_of_planIn?_eq_none hnone, List.findSome?_singleton, hfirst]
          rfl
        | ok plan =>
          have hsome := planIn?_eq_some hname hkind hplan
          obtain ⟨hlocals, hremotes⟩ := stepsWeight_lt_of_planIn? hsome
          -- each step listed weighs less than the configuration, so the hypothesis is about it
          have hall {steps : List Entries} (hlt : Plan.stepsWeight steps < entries.weight) :
              ∀ step ∈ steps, failureOf (registry.resolve stepField step) =
                (registry.nodes stepField step).findSome? (Node.failure? registry) :=
            fun step hstep =>
              ih step.weight (Nat.lt_trans (Plan.weight_lt_of_mem hstep) hlt) stepField step rfl
          rw [Node.checkOptions, hplan] at hfirst
          rw [nodes_of_planIn?_eq_some hsome, List.findSome?_cons, hfirst,
            List.findSome?_append, failureOf_resolveSteps (hall hlocals),
            failureOf_resolveSteps (hall hremotes)]
          show (failureOf (do
              let locals ← underHeading localsHeading (resolveSteps registry 1 plan.locals)
              let remotes ← underHeading remotesHeading (resolveSteps registry 1 plan.remotes)
              .ok (assemble plan.transport locals remotes))).map _ = _
          rw [failureOf_seq, failureOf_underHeading, failureOf_underHeading, Option.map_or,
            Option.map_map, Option.map_map]
          rfl

/-- A fault of a node by itself has no headings: those are put on when it is reported. -/
theorem Node.check_failsBare (registry : Registry) (node : Node) :
    FailsBare (node.check registry) := by
  have hname : FailsBare (nameIn node.entries node.field) := by
    rw [nameIn]
    split
    · exact .ok _
    · exact .error rfl
  refine hname.bind fun name => ?_
  have hkind : FailsBare (registry.kindOf name) := by
    rw [kindOf]
    split
    · exact .ok _
    · exact .error rfl
  refine hkind.bind fun kind => ?_
  cases kind with
  | step kind => exact (FailsBare.ofEntries_step kind _).map _
  | pipeline kind => exact (FailsBare.ofEntries_plan kind _).map _

theorem Node.failure?_eq_none_iff {node : Node} :
    node.failure? registry = none ↔ node.check registry = .ok () := by
  rw [failure?, Option.map_eq_none_iff, failureOf_eq_none_iff]

/-- A fault is reported as a failure with that root, under what is said about it. -/
theorem Node.failure?_eq_some_iff {node : Node} {failure : Failure} :
    node.failure? registry = some failure ↔
      ∃ cause, node.check registry = .error cause ∧ failure.root = cause ∧
        failure.headings = (node.complaints registry).map .message := by
  rw [failure?]
  exact (node.check_failsBare registry).beneath_eq_some_iff

/-- **A configuration fails for its first fault**, if there is one: for the first of the
configurations in it, in order, that is not right by itself, whatever is wrong with those after it.
The headings are the way there: each pipeline further up, the half of it and the position of the
step, and at last the kind of what is wrong, if that is a kind the registry has. -/
theorem resolve_eq_error_iff (registry : Registry) (field : String) (entries : Entries)
    (failure : Failure) :
    registry.resolve field entries = .error failure ↔
      ∃ earlier node later cause,
        registry.nodes field entries = earlier ++ node :: later ∧
        (∀ other ∈ earlier, other.check registry = .ok ()) ∧
        node.check registry = .error cause ∧ failure.root = cause ∧
        failure.headings = (node.complaints registry).map .message := by
  rw [← failureOf_eq_some_iff, failureOf_resolve, List.findSome?_eq_some_iff]
  constructor
  · rintro ⟨earlier, node, later, hsplit, hfault, hearlier⟩
    obtain ⟨cause, hcheck, hroot, hheadings⟩ := Node.failure?_eq_some_iff.mp hfault
    exact ⟨earlier, node, later, cause, hsplit,
      fun other hother => Node.failure?_eq_none_iff.mp (hearlier other hother),
      hcheck, hroot, hheadings⟩
  · rintro ⟨earlier, node, later, cause, hsplit, hearlier, hfault⟩
    exact ⟨earlier, node, later, hsplit, Node.failure?_eq_some_iff.mpr ⟨cause, hfault⟩,
      fun other hother => Node.failure?_eq_none_iff.mpr (hearlier other hother)⟩

end

end Registry

end FolderBackup
