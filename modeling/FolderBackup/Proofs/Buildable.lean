import FolderBackup.Proofs.Dataflow
import FolderBackup.Proofs.StillWorld

/-! When a command can be built.

What a command needs of its context is known from what is reached: a connection, if a backup is
saved or a transport is used, and for each upload a backup saved before it, or a path that was
there at the start (`Operation.Supplied`). Together with its verification that is all: in a
world that stays the same a command is built if and only if its pipeline is verified and its
context supplies what is needed (`Pipeline.forward_ok_iff`). -/
namespace FolderBackup

/-- The context has what the steps and transports that an operation reaches need of it. -/
structure Operation.Supplied (operation : Operation) (context : Context) : Prop where
  connection : context.connection.isSome ∨
    (∀ step ∈ operation.reached, step.kind ≠ .save) ∧
      ∀ inner ∈ operation.reachedPipelines, inner.transport = none
  destination : ∀ before step rest, operation.reached = before ++ step :: rest →
    step.kind = .push → (∃ earlier ∈ before, earlier.kind = .save) ∨ context.destination.isSome

/-- What is needed is there or not, whatever else is in the context. -/
theorem Operation.Supplied.of_same {operation : Operation} {context other : Context}
    (h : operation.Supplied context) (hconnection : other.connection = context.connection)
    (hdestination : other.destination = context.destination) : operation.Supplied other := by
  refine ⟨?_, ?_⟩
  · rw [hconnection]
    exact h.connection
  · rw [hdestination]
    exact h.destination

/-! ### Single steps -/

theorem Step.savedPath?_isSome_iff {step : Step} {context : Context} :
    (step.savedPath? context).isSome ↔ step.kind = .save ∧ context.connection.isSome := by
  cases step <;> simp [Step.savedPath?, Step.kind]

theorem Context.destinationAfter_isSome_iff {context : Context} {steps : List Step} :
    (context.destinationAfter steps).isSome ↔
      (context.connection.isSome ∧ ∃ step ∈ steps, step.kind = .save) ∨
        context.destination.isSome := by
  have hsaved : (steps.filterMap (Step.savedPath? context)).getLast?.isSome ↔
      ∃ step ∈ steps, (step.savedPath? context).isSome := by
    rw [List.getLast?_isSome, ne_eq, List.filterMap_eq_nil_iff]
    simp [Option.isSome_iff_ne_none]
  rw [Context.destinationAfter, Option.isSome_or, Bool.or_eq_true, hsaved]
  simp only [Step.savedPath?_isSome_iff]
  constructor
  · rintro (⟨step, hstep, hkind, hconnection⟩ | hdestination)
    · exact .inl ⟨hconnection, step, hstep, hkind⟩
    · exact .inr hdestination
  · rintro (⟨hconnection, step, hstep, hkind⟩ | hdestination)
    · exact .inl ⟨step, hstep, hkind, hconnection⟩
    · exact .inr hdestination

/-- Saving needs a connection and uploading needs a path; no other step needs anything. -/
theorem Step.forward_supplied_iff {cores : Nat} {step : Step} {context : Context} :
    (∃ text left, step.forward cores context = .ok (text, left)) ↔
      (step.kind = .save → context.connection.isSome) ∧
        (step.kind = .push → context.destination.isSome) := by
  cases step with
  | save destFile =>
    rw [Step.forward, Context.needConnection]
    cases context.connection <;> simp [Step.kind, bind, Except.bind]
  | push upload =>
    rw [Step.forward, Context.needDestination]
    cases context.destination <;> simp [Step.kind, bind, Except.bind]
  | archive | compress | encrypt | sign | sync => simp [Step.forward, Step.kind]

/-- Steps have their fragments if and only if those that save have a connection, and those that
upload a path. -/
theorem Step.fragments_supplied_iff (cores : Nat) (steps : List Step) (context : Context) :
    (∃ fragments after, (Step.fragments cores steps).outcome context = (.ok fragments, after)) ↔
      (context.connection.isSome ∨ ∀ step ∈ steps, step.kind ≠ .save) ∧
        ∀ before step rest, steps = before ++ step :: rest → step.kind = .push →
          (∃ earlier ∈ before, earlier.kind = .save) ∨ context.destination.isSome := by
  rw [Step.fragments_ok_iff]
  simp only [Step.forward_supplied_iff]
  constructor
  · intro h
    refine ⟨?_, fun before step rest heq hkind => ?_⟩
    · by_cases hconnection : context.connection.isSome
      · exact .inl hconnection
      · refine .inr fun step hstep hkind => hconnection ?_
        obtain ⟨before, rest, heq⟩ := List.append_of_mem hstep
        exact (h before step rest heq).1 hkind
    · rcases Context.destinationAfter_isSome_iff.1 ((h before step rest heq).2 hkind) with
        ⟨_, hsaved⟩ | hdestination
      · exact .inl hsaved
      · exact .inr hdestination
  · rintro ⟨hconnection, hdestination⟩ before step rest rfl
    refine ⟨fun hkind => ?_, fun hkind => Context.destinationAfter_isSome_iff.2 ?_⟩
    · rcases hconnection with hconnection | hnone
      · exact hconnection
      · exact absurd hkind (hnone step (by simp))
    · rcases hdestination before step rest rfl hkind with ⟨earlier, hearlier, hsaves⟩ | hinitial
      · rcases hconnection with hconnection | hnone
        · exact .inl ⟨hconnection, earlier, hearlier, hsaves⟩
        · exact absurd hsaves (hnone earlier (List.mem_append_left _ hearlier))
      · exact .inr hinitial

/-! ### Layouts -/

theorem Transport.wrap_ok_iff {transport : Transport} {context : Context} {first second : String} :
    (∃ command, transport.wrap context first second = .ok command) ↔
      context.connection.isSome := by
  rw [Transport.wrap, Context.needConnection]
  cases context.connection <;> cases transport <;> simp [bind, Except.bind]

mutual

/-- A layout needs a connection for its transports, and nothing else. -/
theorem Operation.laidOut_ok_iff (context : Context) (operation : Operation)
    (fragments : List String) :
    (∃ command, operation.laidOut context fragments = .ok command) ↔
      context.connection.isSome ∨
        ∀ inner ∈ operation.reachedPipelines, inner.transport = none := by
  cases operation with
  | step single => simp [Operation.laidOut, Operation.reachedPipelines]
  | pipeline locals remotes transport =>
    have hlocals := Operation.laidOutAll_ok_iff context locals
      (fragments.take (Operation.reachedAll locals).length)
    cases transport with
    | none =>
      simp only [Operation.laidOut, Operation.reachedPipelines, bind_eq_ok_iff,
        List.forall_mem_cons, List.append_nil, true_and, ← hlocals]
      constructor
      · rintro ⟨_, commands, hcommands, _⟩
        exact ⟨commands, hcommands⟩
      · rintro ⟨commands, hcommands⟩
        exact ⟨_, commands, hcommands, rfl⟩
    | some transport =>
      have hremotes := Operation.laidOutAll_ok_iff context remotes
        (fragments.drop (Operation.reachedAll locals).length)
      simp only [Operation.laidOut, Operation.reachedPipelines, bind_eq_ok_iff,
        List.forall_mem_cons]
      constructor
      · rintro ⟨command, localCommands, _, remoteCommands, _, hwrap⟩
        exact .inl (Transport.wrap_ok_iff.1 ⟨command, hwrap⟩)
      · rintro (hconnection | ⟨hnone, _⟩)
        · obtain ⟨localCommands, hfirst⟩ := hlocals.2 (.inl hconnection)
          obtain ⟨remoteCommands, hsecond⟩ := hremotes.2 (.inl hconnection)
          obtain ⟨command, hwrap⟩ := Transport.wrap_ok_iff.2 hconnection
          exact ⟨command, localCommands, hfirst, remoteCommands, hsecond, hwrap⟩
        · exact absurd hnone (by simp)

theorem Operation.laidOutAll_ok_iff (context : Context) (operations : List Operation)
    (fragments : List String) :
    (∃ commands, Operation.laidOutAll context operations fragments = .ok commands) ↔
      context.connection.isSome ∨
        ∀ inner ∈ Operation.reachedPipelinesAll operations, inner.transport = none := by
  cases operations with
  | nil => simp [Operation.laidOutAll, Operation.reachedPipelinesAll]
  | cons operation rest =>
    have hfirst := Operation.laidOut_ok_iff context operation
      (fragments.take operation.reached.length)
    have hrest := Operation.laidOutAll_ok_iff context rest
      (fragments.drop operation.reached.length)
    rw [Operation.laidOutAll, Operation.reachedPipelinesAll, List.forall_mem_append,
      or_and_left, ← hfirst, ← hrest]
    simp only [bind_eq_ok_iff]
    constructor
    · rintro ⟨_, command, hcommand, commands, hcommands, _⟩
      exact ⟨⟨command, hcommand⟩, commands, hcommands⟩
    · rintro ⟨⟨command, hcommand⟩, commands, hcommands⟩
      exact ⟨_, command, hcommand, commands, hcommands, rfl⟩

end

/-! ### Whole commands -/

/-- A command is spelled if and only if its context supplies what is needed. -/
theorem Operation.spelled_ok_iff (cores : Nat) (operation : Operation) (context : Context) :
    (∃ command after, (operation.spelled cores).outcome context = (.ok command, after)) ↔
      operation.Supplied context := by
  have hlaid := Operation.laidOut_ok_iff context operation
  have hfragments := Step.fragments_supplied_iff cores operation.reached context
  simp only [Operation.spelled_eq_ok_iff]
  constructor
  · rintro ⟨command, after, fragments, hsteps, hcommand⟩
    obtain ⟨hsaves, hpushes⟩ := hfragments.1 ⟨fragments, after, hsteps⟩
    refine ⟨?_, hpushes⟩
    rcases (hlaid fragments).1 ⟨command, hcommand⟩ with hconnection | hnone
    · exact .inl hconnection
    · exact hsaves.imp_right fun hsaves => ⟨hsaves, hnone⟩
  · rintro ⟨hconnection, hdestination⟩
    obtain ⟨fragments, after, hsteps⟩ := hfragments.2 ⟨hconnection.imp_right And.left, hdestination⟩
    obtain ⟨command, hcommand⟩ := (hlaid fragments).2 (hconnection.imp_right And.right)
    exact ⟨command, after, fragments, hsteps, hcommand⟩

section Still
variable {σ : Type} {around : Surroundings σ} {world : World} {among : σ → Prop}

/-- A pipeline whose verification fails has no command, and the verification's failure is all
that is left of it. -/
theorem Pipeline.forward_of_verified_error (still : around.HoldStill world among)
    (pipeline : Pipeline) {context : Context} {failure : Failure} {state : σ}
    (hstate : among state) (h : pipeline.toOperation.verified world context = .error failure) :
    ∃ later, among later ∧
      (pipeline.forward around).outcome context state = (.error failure, context, later) := by
  obtain ⟨later, hlater, hverify⟩ :=
    Operation.verify_of_still still context pipeline.toOperation hstate
  rw [h] at hverify
  exact ⟨later, hlater, Pipeline.forward_of_verify_error hverify⟩

/-- In a world that stays the same, building a command comes to what verification comes to, or else
to what spelling the command comes to. -/
theorem Pipeline.outcome_forward_of_still (still : around.HoldStill world among)
    (pipeline : Pipeline) (context : Context) {state : σ} (hstate : among state) :
    ∃ later, (pipeline.forward around).outcome context state =
      match pipeline.toOperation.verified world context with
      | .error failure => (.error failure, context, later)
      | .ok () => (((pipeline.toOperation.spelled around.cores).outcome context).1,
          ((pipeline.toOperation.spelled around.cores).outcome context).2, later) := by
  cases hverified : pipeline.toOperation.verified world context with
  | error failure =>
    obtain ⟨later, _, houtcome⟩ :=
      Pipeline.forward_of_verified_error still pipeline hstate hverified
    exact ⟨later, houtcome⟩
  | ok _ =>
    obtain ⟨later, _, houtcome⟩ :=
      Operation.forward_of_verified still pipeline.toOperation hverified state hstate
    exact ⟨later, houtcome⟩

/-- A command is built if and only if its pipeline is verified and its context supplies what is
needed; nothing but the states among which the surroundings hold still is left either way. -/
theorem Pipeline.forward_of_still (still : around.HoldStill world among) (pipeline : Pipeline)
    (context : Context) {state : σ} (hstate : among state) :
    among ((pipeline.forward around).outcome context state).2.2 ∧
      ((∃ command, ((pipeline.forward around).outcome context state).1 = .ok command) ↔
        pipeline.toOperation.verified world context = .ok () ∧
          pipeline.toOperation.Supplied context) := by
  cases hverified : pipeline.toOperation.verified world context with
  | error failure =>
    obtain ⟨later, hlater, houtcome⟩ :=
      Pipeline.forward_of_verified_error still pipeline hstate hverified
    rw [houtcome]
    exact ⟨hlater, by simp⟩
  | ok _ =>
    obtain ⟨later, hlater, houtcome⟩ :=
      Operation.forward_of_verified still pipeline.toOperation hverified state hstate
    change (pipeline.forward around).outcome context state = _ at houtcome
    rw [houtcome]
    refine ⟨hlater, ?_⟩
    rw [and_iff_right rfl, ← Operation.spelled_ok_iff around.cores]
    constructor
    · rintro ⟨command, hcommand⟩
      exact ⟨command, _, Prod.ext hcommand rfl⟩
    · rintro ⟨command, after, hspelled⟩
      exact ⟨command, by rw [hspelled]⟩

/-- **When a command can be built.** In a world that stays the same, the command of a pipeline
is built if and only if the pipeline is verified, there is a connection unless neither a backup
is saved nor a transport used anywhere that is reached, and each upload reached comes after a
saved backup unless there is one from the start. -/
theorem Pipeline.forward_ok_iff (still : around.HoldStill world among) (pipeline : Pipeline)
    (context : Context) {state : σ} (hstate : among state) :
    (∃ command, ((pipeline.forward around).outcome context state).1 = .ok command) ↔
      ((pipeline.verify around context).outcome state).1 = .ok () ∧
      (context.connection.isSome ∨
        (∀ step ∈ pipeline.reached, step.kind ≠ .save) ∧
          ∀ inner ∈ pipeline.reachedPipelines, inner.transport = none) ∧
      ∀ before step rest, pipeline.reached = before ++ step :: rest → step.kind = .push →
        (∃ earlier ∈ before, earlier.kind = .save) ∨ context.destination.isSome := by
  obtain ⟨later, _, hverify⟩ :=
    Operation.verify_of_still still context pipeline.toOperation hstate
  have hchecked : ((pipeline.verify around context).outcome state).1 =
      pipeline.toOperation.verified world context := congrArg Prod.fst hverify
  rw [(Pipeline.forward_of_still still pipeline context hstate).2, hchecked]
  exact and_congr_right fun _ =>
    ⟨fun supplied => ⟨supplied.connection, supplied.destination⟩,
      fun ⟨hconnection, hdestination⟩ => ⟨hconnection, hdestination⟩⟩

end Still

theorem Pipeline.forward_ok_iff_relay :
    ((Pipeline.relay.verify (Scene.surroundings 4) .remote).outcome
      (Scene.ofWorld World.usual ⟨0, 0⟩)).1 = .ok () ∧
    (Context.remote.connection.isSome ∨
      (∀ step ∈ Pipeline.relay.reached, step.kind ≠ .save) ∧
        ∀ inner ∈ Pipeline.relay.reachedPipelines, inner.transport = none) ∧
    ∀ before step rest, Pipeline.relay.reached = before ++ step :: rest → step.kind = .push →
      (∃ earlier ∈ before, earlier.kind = .save) ∨ Context.remote.destination.isSome :=
  (Pipeline.forward_ok_iff (Scene.surroundings_holdStill 4 World.usual) .relay .remote rfl).1
    ⟨_, Pipeline.forward_relay⟩

end FolderBackup
