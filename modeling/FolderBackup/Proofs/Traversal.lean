import FolderBackup.Proofs.Fragments

/-! Commands with a check at every pipeline.

Building a command makes sure of every pipeline before its operations are gone through. What is
made sure of need not be that the pipeline verifies: `Operation.traversed` is the same traversal
with any check in that place. With verification it is the building of the command
(`Operation.forward_eq_traversed`); a check that is noted beside the state leaves the building as
it is (`Operation.traversed_noted`), so the notes tell what every check on the way came to.

Whatever is checked, and whether or not a command comes out, what every step that is reached keeps
of the context is kept (`Operation.keeps_of_reached`). So nothing of it changes but the path of the
backup (`Operation.traversed_keeps`). -/
namespace FolderBackup

variable {σ κ ν α β : Type}

/-! ### Traversals -/

/-- What is made sure of before the operations of a pipeline are gone through. -/
abbrev Operation.Check (σ : Type) := Operation → Context → Activity σ Unit

mutual

/-- The command of an operation, with a check of any kind at every pipeline. -/
def Operation.traversed (cores : Nat) (check : Operation.Check σ) : Operation → Building σ String
  | .step single => Handing.changing fun context => single.forward cores context
  | .pipeline locals remotes transport => do
    Handing.ofActivity (check (.pipeline locals remotes transport))
    let locals ← Operation.traversedAll cores check locals
    match transport with
    | none => pure (Operation.piped locals)
    | some transport => do
      let remotes ← Operation.traversedAll cores check remotes
      Handing.reading fun context =>
        transport.wrap context (Operation.piped locals) (Operation.chained remotes)

def Operation.traversedAll (cores : Nat) (check : Operation.Check σ) :
    List Operation → Building σ (List String)
  | [] => pure []
  | operation :: rest => do
    let command ← operation.traversed cores check
    let commands ← Operation.traversedAll cores check rest
    pure (command :: commands)

end

/-- That an operation verifies. -/
def Operation.verifying (around : Surroundings σ) : Operation.Check σ :=
  fun operation context => operation.verify around context

/-- Nothing is made sure of. -/
def Operation.unchecked : Operation.Check σ :=
  fun _ _ => pure ()

mutual

/-- Building a command makes sure that every pipeline on the way verifies. -/
theorem Operation.forward_eq_traversed (around : Surroundings σ) (operation : Operation) :
    operation.forward around = operation.traversed around.cores (Operation.verifying around) := by
  cases operation with
  | step single => rfl
  | pipeline locals remotes transport =>
    rw [Operation.forward, Operation.traversed, Operation.forwardAll_eq_traversedAll around locals]
    cases transport with
    | none => rfl
    | some transport =>
      simp only [Operation.forwardAll_eq_traversedAll around remotes]
      rfl

theorem Operation.forwardAll_eq_traversedAll (around : Surroundings σ)
    (operations : List Operation) :
    Operation.forwardAll around operations =
      Operation.traversedAll around.cores (Operation.verifying around) operations := by
  cases operations with
  | nil => rfl
  | cons operation rest =>
    rw [Operation.forwardAll, Operation.traversedAll,
      Operation.forward_eq_traversed around operation,
      Operation.forwardAll_eq_traversedAll around rest]

end

/-- A pipeline that does not verify has no command, for the very same cause, and what is handed on
is not touched. -/
theorem Pipeline.forward_of_verify_error {around : Surroundings σ} {pipeline : Pipeline}
    {context : Context} {failure : Failure} {state after : σ}
    (h : (pipeline.verify around context).outcome state = (.error failure, after)) :
    (pipeline.forward around).outcome context state = (.error failure, context, after) := by
  have hcheck : (Handing.ofActivity fun context =>
      Operation.verify around context pipeline.toOperation).outcome context state =
        (.error failure, context, after) := by
    rw [Handing.outcome_ofActivity]
    exact congrArg (fun outcome => (outcome.1, context, outcome.2)) h
  exact Handing.outcome_bind_error hcheck _

/-! ### What a traversal leaves of the context -/

/-- However it ends, an activity hands on what has the property if it was handed what has it. -/
def Handing.Keeps (property : κ → Prop) (handing : Handing κ σ α) : Prop :=
  ∀ held state, property held → property (handing.outcome held state).2.1

namespace Handing.Keeps
variable {property : κ → Prop}

theorem pure (value : α) : Keeps property (Pure.pure value : Handing κ σ α) :=
  fun _ _ h => h

theorem ofActivity (activity : κ → Activity σ α) : Keeps property (Handing.ofActivity activity) :=
  fun _ _ h => h

theorem reading (f : κ → Except Failure α) :
    Keeps property (Handing.reading f : Handing κ σ α) :=
  fun _ _ h => h

theorem changing {f : κ → Except Failure (α × κ)}
    (hf : ∀ held value after, property held → f held = .ok (value, after) → property after) :
    Keeps property (Handing.changing f : Handing κ σ α) := by
  intro held state h
  rw [Handing.outcome_changing, Activity.outcome_changing]
  cases hresult : f held with
  | error failure => exact h
  | ok result => exact hf held result.1 result.2 h hresult

theorem bind {handing : Handing κ σ α} {next : α → Handing κ σ β} (hfirst : Keeps property handing)
    (hnext : ∀ value, Keeps property (next value)) : Keeps property (handing >>= next) := by
  intro held state h
  have hkept := hfirst held state h
  rw [Handing.outcome_bind]
  rcases houtcome : handing.outcome held state with ⟨failure | value, between, later⟩
  · rw [houtcome] at hkept
    exact hkept
  · rw [houtcome] at hkept
    exact hnext value between later hkept

end Handing.Keeps

/-- The step leaves a context with the property if it finds one. -/
def Step.Keeps (property : Context → Prop) (cores : Nat) (step : Step) : Prop :=
  ∀ context text after, property context → step.forward cores context = .ok (text, after) →
    property after

section Kept
variable {property : Context → Prop} {cores : Nat}

mutual

/-- **What every step that is reached keeps is kept by building the command**, also if no command
comes out. -/
theorem Operation.keeps_of_reached (check : Operation.Check σ) (operation : Operation)
    (hsteps : ∀ step ∈ operation.reached, step.Keeps property cores) :
    (operation.traversed cores check).Keeps property := by
  cases operation with
  | step single => exact .changing (hsteps single (by simp [Operation.reached]))
  | pipeline locals remotes transport =>
    rw [Operation.traversed]
    have hlocals := Operation.keepsAll_of_reached check locals fun step hstep =>
      hsteps step (by simp [Operation.reached, hstep])
    refine (Handing.Keeps.ofActivity _).bind fun _ => hlocals.bind fun _ => ?_
    cases transport with
    | none => exact .pure _
    | some transport =>
      have hremotes := Operation.keepsAll_of_reached check remotes fun step hstep =>
        hsteps step (by simp [Operation.reached, hstep])
      exact hremotes.bind fun _ => .reading _

theorem Operation.keepsAll_of_reached (check : Operation.Check σ) (operations : List Operation)
    (hsteps : ∀ step ∈ Operation.reachedAll operations, step.Keeps property cores) :
    (Operation.traversedAll cores check operations).Keeps property := by
  cases operations with
  | nil => exact .pure []
  | cons operation rest =>
    rw [Operation.traversedAll]
    have hfirst := Operation.keeps_of_reached check operation fun step hstep =>
      hsteps step (by simp [Operation.reachedAll, hstep])
    have hrest := Operation.keepsAll_of_reached check rest fun step hstep =>
      hsteps step (by simp [Operation.reachedAll, hstep])
    exact hfirst.bind fun _ => hrest.bind fun _ => .pure _

end

theorem Pipeline.forward_keeps (around : Surroundings σ) (pipeline : Pipeline)
    (hsteps : ∀ step ∈ pipeline.reached, step.Keeps property around.cores) :
    (pipeline.forward around).Keeps property := by
  rw [forward, Operation.forward_eq_traversed]
  exact Operation.keeps_of_reached _ _ hsteps

end Kept

/-- The context is what it was, but for the path of the backup. -/
def Context.IsKeptIn (context after : Context) : Prop :=
  ∃ path, after = { context with destination := path }

theorem Context.IsKeptIn.refl (context : Context) : context.IsKeptIn context :=
  ⟨context.destination, rfl⟩

theorem Context.IsKeptIn.trans {context between after : Context}
    (first : context.IsKeptIn between) (second : between.IsKeptIn after) :
    context.IsKeptIn after := by
  obtain ⟨_, rfl⟩ := first
  obtain ⟨path, rfl⟩ := second
  exact ⟨path, rfl⟩

theorem Step.keeps_isKeptIn (context : Context) (cores : Nat) (step : Step) :
    step.Keeps context.IsKeptIn cores :=
  fun _ _ _ hkept hforward => hkept.trans ⟨_, Step.context_of_forward hforward⟩

/-- However it ends, building hands on the context but for the path of the backup. -/
def Handing.KeepsContext (building : Building σ α) : Prop :=
  ∀ (context : Context) (state : σ), context.IsKeptIn (building.outcome context state).2.1

/-- **Nothing of the context changes but the path of the backup**, also if no command comes
out. -/
theorem Operation.traversed_keeps (cores : Nat) (check : Operation.Check σ)
    (operation : Operation) : (operation.traversed cores check).KeepsContext :=
  fun context state => Operation.keeps_of_reached check operation
    (fun step _ => step.keeps_isKeptIn context cores) context state (.refl context)

theorem Pipeline.forward_keepsContext (around : Surroundings σ) (pipeline : Pipeline) :
    (pipeline.forward around).KeepsContext := by
  rw [forward, Operation.forward_eq_traversed]
  exact Operation.traversed_keeps _ _ _

/-! ### Checks that are noted -/

/-- The check, with what it comes to noted beside the state. -/
def Operation.Check.noted (check : Operation.Check σ) :
    Operation.Check (σ × List (Except Failure Unit)) :=
  fun operation context => ExceptT.mk fun (state, notes) =>
    let (result, after) := (check operation context).outcome state
    pure (result, (after, notes ++ [result]))

@[simp] theorem Operation.Check.outcome_noted (check : Operation.Check σ) (operation : Operation)
    (context : Context) (state : σ) (notes : List (Except Failure Unit)) :
    (check.noted operation context).outcome (state, notes) =
      (((check operation context).outcome state).1, (((check operation context).outcome state).2,
        notes ++ [((check operation context).outcome state).1])) := rfl

/-- What is noted comes to what is not, and only adds notes. -/
def Handing.Notes (noted : Handing κ (σ × List ν) α) (plain : Handing κ σ α) : Prop :=
  ∀ held state notes, ∃ made, noted.outcome held (state, notes) =
    ((plain.outcome held state).1, (plain.outcome held state).2.1,
      ((plain.outcome held state).2.2, notes ++ made))

namespace Handing.Notes

theorem of_silent {noted : Handing κ (σ × List ν) α} {plain : Handing κ σ α}
    (h : ∀ held state notes, noted.outcome held (state, notes) =
      ((plain.outcome held state).1, (plain.outcome held state).2.1,
        ((plain.outcome held state).2.2, notes))) : noted.Notes plain :=
  fun held state notes => ⟨[], by rw [List.append_nil, h]⟩

theorem pure (value : α) :
    Notes (Pure.pure value : Handing κ (σ × List ν) α) (Pure.pure value) :=
  of_silent fun _ _ _ => rfl

theorem reading (f : κ → Except Failure α) :
    Notes (Handing.reading f : Handing κ (σ × List ν) α) (Handing.reading f) :=
  of_silent fun _ _ _ => rfl

theorem changing (f : κ → Except Failure (α × κ)) :
    Notes (Handing.changing f : Handing κ (σ × List ν) α) (Handing.changing f) :=
  of_silent fun _ _ _ => rfl

theorem check (check : Operation.Check σ) (operation : Operation) :
    Notes (Handing.ofActivity (check.noted operation)) (Handing.ofActivity (check operation)) :=
  fun _ _ _ => ⟨_, rfl⟩

theorem bind {noted : Handing κ (σ × List ν) α} {plain : Handing κ σ α}
    {next : α → Handing κ (σ × List ν) β} {after : α → Handing κ σ β} (h : noted.Notes plain)
    (hnext : ∀ value, (next value).Notes (after value)) :
    (noted >>= next).Notes (plain >>= after) := by
  intro held state notes
  obtain ⟨made, hmade⟩ := h held state notes
  rcases houtcome : plain.outcome held state with ⟨failure | value, kept, later⟩
  · rw [houtcome] at hmade
    exact ⟨made, by rw [outcome_bind_error hmade, outcome_bind_error houtcome]⟩
  · rw [houtcome] at hmade
    obtain ⟨more, hmore⟩ := hnext value kept later (notes ++ made)
    refine ⟨made ++ more, ?_⟩
    rw [outcome_bind_ok hmade, outcome_bind_ok houtcome, hmore, List.append_assoc]

end Handing.Notes

mutual

/-- Noting what the checks come to changes nothing else. -/
theorem Operation.traversed_noted (cores : Nat) (check : Operation.Check σ)
    (operation : Operation) :
    (operation.traversed cores check.noted).Notes (operation.traversed cores check) := by
  cases operation with
  | step single => exact .changing _
  | pipeline locals remotes transport =>
    rw [Operation.traversed, Operation.traversed]
    refine (Handing.Notes.check check _).bind fun _ =>
      (Operation.traversedAll_noted cores check locals).bind fun _ => ?_
    cases transport with
    | none => exact .pure _
    | some transport =>
      exact (Operation.traversedAll_noted cores check remotes).bind fun _ => .reading _

theorem Operation.traversedAll_noted (cores : Nat) (check : Operation.Check σ)
    (operations : List Operation) :
    (Operation.traversedAll cores check.noted operations).Notes
      (Operation.traversedAll cores check operations) := by
  cases operations with
  | nil => exact .pure []
  | cons operation rest =>
    rw [Operation.traversedAll, Operation.traversedAll]
    exact (Operation.traversed_noted cores check operation).bind fun _ =>
      (Operation.traversedAll_noted cores check rest).bind fun _ => .pure _

end

end FolderBackup
