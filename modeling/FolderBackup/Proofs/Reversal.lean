import FolderBackup.Operation.Backward
import FolderBackup.Proofs.Dataflow
import FolderBackup.Proofs.Loadable

/-! Commands that undo.

The local half of a pipeline is, with the pipelines in it taken apart, a list of steps
(`Operation.localSteps`). Undoing the pipeline undoes them, the last one first, and pipes the
commands together: that inner pipelines are undone as a whole, in a pipe of their own, makes no
difference, as long as none of them is empty (`Operation.backward_eq`). So there is a command if
and only if every step can be undone, and otherwise the last one that cannot is named
(`Pipeline.backward_mirrors`). -/
namespace FolderBackup

/-- What is made of a result fails if and only if the result does. -/
theorem map_eq_error_iff {ε α β : Type} {result : Except ε α} {make : α → β} {failure : ε} :
    make <$> result = .error failure ↔ result = .error failure := by
  cases result <;> simp [Functor.map, Except.map]

/-! ### The local half -/

mutual

/-- The steps of the local half of an operation, in order. -/
def Operation.localSteps : Operation → List Step
  | .step single => [single]
  | .pipeline locals _ _ => Operation.localStepsAll locals

def Operation.localStepsAll : List Operation → List Step
  | [] => []
  | operation :: rest => operation.localSteps ++ Operation.localStepsAll rest

end

mutual

/-- Every pipeline in the local half has local operations. -/
def Operation.IsFilled : Operation → Prop
  | .step _ => True
  | .pipeline locals _ _ => locals ≠ [] ∧ Operation.AreFilled locals

def Operation.AreFilled : List Operation → Prop
  | [] => True
  | operation :: rest => operation.IsFilled ∧ Operation.AreFilled rest

end

/-- What is filled has a local step. -/
theorem Operation.localSteps_ne_nil (operation : Operation) (h : operation.IsFilled) :
    operation.localSteps ≠ [] := by
  cases operation with
  | step single => exact List.cons_ne_nil _ _
  | pipeline locals remotes transport =>
    obtain ⟨hnonempty, hlocals⟩ := h
    cases locals with
    | nil => exact absurd rfl hnonempty
    | cons first rest =>
      exact List.append_ne_nil_of_left_ne_nil (Operation.localSteps_ne_nil first hlocals.1) _

/-! ### Undoing steps -/

/-- The step can be undone. -/
def Step.HasReverse (step : Step) : Prop :=
  step.kind ∈ [Step.Kind.compress, .encrypt, .sign]

instance (step : Step) : Decidable step.HasReverse :=
  inferInstanceAs (Decidable (_ ∈ _))

/-- The commands that undo some steps, the last one first. -/
def Step.undone (cores : Nat) (context : Context) (steps : List Step) :
    Except Failure (List String) :=
  steps.reverse.mapM (Step.backward cores context)

variable {cores : Nat} {context : Context}

theorem Step.exists_backward_of_hasReverse {step : Step} (h : step.HasReverse) :
    ∃ command, step.backward cores context = .ok command := by
  cases step with
  | compress options => exact ⟨_, rfl⟩
  | encrypt use | sign use => exact ⟨_, rfl⟩
  | archive | sync | save destFile | push upload => simp [HasReverse, kind] at h

theorem Step.backward_of_not_hasReverse {step : Step} (h : ¬ step.HasReverse) :
    step.backward cores context = .error (.noReverse step.kind.name) := by
  cases step with
  | compress options => exact absurd (by simp [HasReverse, kind]) h
  | encrypt use | sign use => exact absurd (by simp [HasReverse, kind]) h
  | archive | sync | save destFile | push upload => rfl

/-- There is a command for a step if and only if it can be undone. -/
theorem Step.exists_backward_iff {step : Step} :
    (∃ command, step.backward cores context = .ok command) ↔ step.HasReverse := by
  refine ⟨fun ⟨command, hcommand⟩ => ?_, exists_backward_of_hasReverse⟩
  refine Classical.byContradiction fun hnone => ?_
  rw [backward_of_not_hasReverse hnone] at hcommand
  cases hcommand

/-- The last steps are undone first. -/
theorem Step.undone_append (cores : Nat) (context : Context) (first second : List Step) :
    Step.undone cores context (first ++ second) =
      Step.undone cores context second >>= fun later =>
        Step.undone cores context first >>= fun earlier => .ok (later ++ earlier) := by
  rw [undone, List.reverse_append, List.mapM_append]
  rfl

theorem Step.undone_eq_ok_iff {steps : List Step} {commands : List String} :
    Step.undone cores context steps = .ok commands ↔
      List.Forall₂ (fun step command => step.backward cores context = .ok command)
        steps.reverse commands :=
  mapM_eq_ok_iff

theorem Step.exists_undone_iff (cores : Nat) (context : Context) {steps : List Step} :
    (∃ commands, Step.undone cores context steps = .ok commands) ↔
      ∀ step ∈ steps, step.HasReverse := by
  constructor
  · rintro ⟨commands, hcommands⟩ step hstep
    obtain ⟨command, _, hcommand⟩ := exists_mem_of_forall₂
      (undone_eq_ok_iff.mp hcommands).flip (List.mem_reverse.mpr hstep)
    exact exists_backward_iff.mp ⟨command, hcommand⟩
  · intro h
    cases hundone : Step.undone cores context steps with
    | ok commands => exact ⟨commands, rfl⟩
    | error failure =>
      obtain ⟨earlier, step, later, hsplit, -, hfails⟩ := exists_first_of_mapM_error hundone
      have hstep : step ∈ steps := List.mem_reverse.mp (by simp [hsplit])
      obtain ⟨command, hcommand⟩ := exists_backward_iff.mpr (h step hstep)
      rw [hcommand] at hfails
      cases hfails

/-- Where some steps cannot be undone, the last of them is the one named. -/
theorem Step.undone_eq_error_iff (cores : Nat) (context : Context) {steps : List Step}
    {failure : Failure} :
    Step.undone cores context steps = .error failure ↔
      ∃ before step after, steps = before ++ step :: after ∧ ¬ step.HasReverse ∧
        (∀ later ∈ after, later.HasReverse) ∧ failure = .noReverse step.kind.name := by
  constructor
  · intro h
    obtain ⟨earlier, step, later, hsplit, hearlier, hfails⟩ := exists_first_of_mapM_error h
    have hnone : ¬ step.HasReverse := fun hreverse => by
      obtain ⟨command, hcommand⟩ := exists_backward_iff.mpr hreverse
      rw [hcommand] at hfails
      cases hfails
    refine ⟨later.reverse, step, earlier.reverse, ?_, hnone, fun other hother => ?_, ?_⟩
    · simpa using congrArg List.reverse hsplit
    · exact exists_backward_iff.mp (hearlier other (List.mem_reverse.mp hother))
    · rw [backward_of_not_hasReverse hnone] at hfails
      exact (Except.error.inj hfails).symm
  · rintro ⟨before, step, after, rfl, hnone, hafter, rfl⟩
    obtain ⟨commands, hcommands⟩ := (exists_undone_iff cores context).mpr hafter
    have hstep : Step.undone cores context [step] = .error (.noReverse step.kind.name) := by
      rw [undone, List.reverse_singleton, List.mapM_cons, backward_of_not_hasReverse hnone]
      rfl
    rw [undone_append, ← List.singleton_append, undone_append, hcommands, hstep]
    rfl

/-! ### Undoing operations -/

/-- The lists come to the same once they are piped together. -/
structure Operation.SamePipe (first second : List String) : Prop where
  nil_iff : first = [] ↔ second = []
  piped_eq : Operation.piped first = Operation.piped second

namespace Operation.SamePipe

theorem append {first second third fourth : List String} (hfirst : SamePipe first second)
    (hthird : SamePipe third fourth) : SamePipe (first ++ third) (second ++ fourth) := by
  refine ⟨by simp [hfirst.nil_iff, hthird.nil_iff], ?_⟩
  by_cases hnone : first = []
  · rw [hnone, hfirst.nil_iff.mp hnone]
    exact hthird.piped_eq
  · by_cases hlast : third = []
    · rw [hlast, hthird.nil_iff.mp hlast, List.append_nil, List.append_nil]
      exact hfirst.piped_eq
    · unfold Operation.piped
      rw [String.intercalate_append_of_ne_nil hnone hlast,
        String.intercalate_append_of_ne_nil (hfirst.nil_iff.not.mp hnone)
          (hthird.nil_iff.not.mp hlast)]
      exact congrArg₂ (· ++ " | " ++ ·) hfirst.piped_eq hthird.piped_eq

/-- A pipe in one command is the same as its commands. -/
theorem singleton {commands : List String} (h : commands ≠ []) :
    SamePipe [Operation.piped commands] commands :=
  ⟨by simp [h], String.intercalate_singleton⟩

end Operation.SamePipe

/-- Results that fail alike, or come to the same once they are piped together. -/
inductive Operation.SameUndoing :
    Except Failure (List String) → Except Failure (List String) → Prop
  | ok {first second : List String} (h : Operation.SamePipe first second) :
      Operation.SameUndoing (.ok first) (.ok second)
  | error (failure : Failure) : Operation.SameUndoing (.error failure) (.error failure)

namespace Operation.SameUndoing
variable {first second : Except Failure (List String)}

theorem piped_eq (h : SameUndoing first second) :
    (first >>= fun commands => .ok (Operation.piped commands)) = Operation.piped <$> second := by
  cases h with
  | error failure => rfl
  | ok hsame => exact congrArg Except.ok hsame.piped_eq

/-- What is undone after the rest may come as one pipe. -/
theorem append (h : SameUndoing first second) {inner : Except Failure (List String)}
    (hinner : ∀ commands, inner = .ok commands → commands ≠ []) :
    SameUndoing
      (first >>= fun commands => (Operation.piped <$> inner) >>= fun command =>
        .ok (commands ++ [command]))
      (second >>= fun commands => inner >>= fun more => .ok (commands ++ more)) := by
  cases h with
  | error failure => exact .error failure
  | ok hsame =>
    cases inner with
    | error failure => exact .error failure
    | ok more => exact .ok (hsame.append (.singleton (hinner more rfl)))

end Operation.SameUndoing

mutual

/-- **Undoing an operation is undoing its local steps**, the last one first. -/
theorem Operation.backward_eq (cores : Nat) (context : Context) (operation : Operation)
    (h : operation.IsFilled) :
    operation.backward cores context =
      Operation.piped <$> Step.undone cores context operation.localSteps := by
  cases operation with
  | step single =>
    rw [Operation.backward, Operation.localSteps, Step.undone, List.reverse_singleton]
    cases hsingle : single.backward cores context with
    | error failure => simp [List.mapM_cons, hsingle]
    | ok command => simp [List.mapM_cons, hsingle, Operation.piped]
  | pipeline locals remotes transport =>
    rw [Operation.backward, Operation.localSteps]
    exact (Operation.backwardAll_same cores context locals h.2).piped_eq

theorem Operation.backwardAll_same (cores : Nat) (context : Context) (operations : List Operation)
    (h : Operation.AreFilled operations) :
    Operation.SameUndoing (Operation.backwardAll cores context operations)
      (Step.undone cores context (Operation.localStepsAll operations)) := by
  cases operations with
  | nil => exact .ok ⟨Iff.rfl, rfl⟩
  | cons operation rest =>
    have hsteps (commands : List String)
        (hcommands : Step.undone cores context operation.localSteps = .ok commands) :
        commands ≠ [] := by
      have hlength := (Step.undone_eq_ok_iff.mp hcommands).length_eq
      have hpos := List.length_pos_iff.mpr (Operation.localSteps_ne_nil operation h.1)
      rw [List.length_reverse] at hlength
      exact List.length_pos_iff.mp (hlength ▸ hpos)
    rw [Operation.backwardAll, Operation.localStepsAll, Step.undone_append,
      Operation.backward_eq cores context operation h.1]
    exact (Operation.backwardAll_same cores context rest h.2).append hsteps

end

/-- **Undoing mirrors the local half.** A pipeline without an empty pipeline in its local half can
be undone if and only if every local step, of the pipelines in it too, is one that compresses,
encrypts or signs. Then the commands that undo them are piped together, the last step first;
otherwise the last one that cannot be undone is named, under no heading. Nothing is looked at but
the cores and the context, and nothing of the remote halves and the transports: pipelines of the
same local steps are undone alike. -/
theorem Pipeline.backward_mirrors (cores : Nat) (context : Context) {pipeline : Pipeline}
    (h : pipeline.toOperation.IsFilled) :
    ((∃ command, pipeline.backward cores context = .ok command) ↔
      ∀ step ∈ pipeline.toOperation.localSteps, step.HasReverse) ∧
    (∀ command, pipeline.backward cores context = .ok command ↔ ∃ commands,
      List.Forall₂ (fun step text => step.backward cores context = .ok text)
        pipeline.toOperation.localSteps.reverse commands ∧
      command = Operation.piped commands) ∧
    (∀ failure, pipeline.backward cores context = .error failure ↔ ∃ before step after,
      pipeline.toOperation.localSteps = before ++ step :: after ∧ ¬ step.HasReverse ∧
      (∀ later ∈ after, later.HasReverse) ∧ failure = .noReverse step.kind.name) ∧
    ∀ other : Pipeline, other.toOperation.IsFilled →
      other.toOperation.localSteps = pipeline.toOperation.localSteps →
      other.backward cores context = pipeline.backward cores context := by
  have hundone (pipeline : Pipeline) (h : pipeline.toOperation.IsFilled) :
      pipeline.backward cores context =
        Operation.piped <$> Step.undone cores context pipeline.toOperation.localSteps :=
    Operation.backward_eq cores context pipeline.toOperation h
  have hok (command : String) : pipeline.backward cores context = .ok command ↔ ∃ commands,
      Step.undone cores context pipeline.toOperation.localSteps = .ok commands ∧
        Operation.piped commands = command := by
    rw [hundone pipeline h, map_eq_ok_iff]
  refine ⟨?_, fun command => ?_, fun failure => ?_, fun other hother hsame => ?_⟩
  · rw [← Step.exists_undone_iff cores context]
    simp only [hok]
    exact ⟨fun ⟨_, commands, hcommands, _⟩ => ⟨commands, hcommands⟩,
      fun ⟨commands, hcommands⟩ => ⟨_, commands, hcommands, rfl⟩⟩
  · rw [hok]
    simp only [Step.undone_eq_ok_iff, eq_comm (a := command)]
  · rw [← Step.undone_eq_error_iff cores context, hundone pipeline h, map_eq_error_iff]
  · rw [hundone other hother, hundone pipeline h, hsame]

/-- Signed and compressed inside a pipeline, and sent to where it is kept. -/
def Pipeline.sealing : Pipeline where
  locals := [
    .step (.compress ⟨.gzip, none, some 2⟩),
    .pipeline [.step (.sign ⟨"me", none⟩), .step (.compress ⟨.bzip, some 9, none⟩)]
      [.step .sync] none]
  remotes := [.step .sync]
  transport := some .ssh

/-- Two steps that cannot be undone, the last of them inside a pipeline. -/
def Pipeline.syncing : Pipeline where
  locals := [.step .archive, .pipeline [.step .sync, .step (.encrypt ⟨"me", some "keys"⟩)] [] none]
  remotes := []
  transport := none

theorem Pipeline.backward_mirrors_sealing :
    Pipeline.sealing.toOperation.IsFilled ∧
    Pipeline.sealing.backward 4 .remote =
      .ok "pbzip2 -d -p4 --to-stdout | gpg --decrypt | pigz -d -p 2 --to-stdout" ∧
    Pipeline.syncing.backward 4 .remote = .error (.noReverse "sync") := by
  have hsealing : Pipeline.sealing.toOperation.IsFilled := by
    simp [sealing, toOperation, Operation.IsFilled, Operation.AreFilled]
  have hsyncing : Pipeline.syncing.toOperation.IsFilled := by
    simp [syncing, toOperation, Operation.IsFilled, Operation.AreFilled]
  refine ⟨hsealing, ((backward_mirrors 4 .remote hsealing).2.1 _).mpr ⟨_,
      .cons rfl (.cons rfl (.cons rfl .nil)), by decide +kernel⟩,
    ((backward_mirrors 4 .remote hsyncing).2.2.1 _).mpr
      ⟨[.archive], .sync, _, rfl, by decide, ?_, rfl⟩⟩
  decide

end FolderBackup
