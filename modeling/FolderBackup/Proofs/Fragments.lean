import FolderBackup.Proofs.Spelling

/-! Commands as fragments.

A command is made of one fragment for each step that is reached, in order (`Step.fragments`),
and of a layout that puts the fragments into their places (`Operation.laidOut`): a command is
spelled if and only if every step reached has its fragment and the layout can be made
(`Operation.spelled_eq_ok_iff`). The context after some steps differs from the one before in
the path of the backup alone, which is the one of the last step that saved it; so the fragment
of a step is known from the steps before it, without going through them (`Step.fragment_at`). -/
namespace FolderBackup

/-! ### Where the backup is -/

/-- The path that a step saves the backup at, if it is one that does. -/
def Step.savedPath? (context : Context) : Step → Option String
  | .save destFile => context.connection.map fun connection =>
    destFile.render (context.values connection)
  | _ => none

/-- The path of the backup after some steps: that of the last one that saved it, or else the
one there was before. -/
def Context.destinationAfter (context : Context) (steps : List Step) : Option String :=
  (steps.filterMap (Step.savedPath? context)).getLast?.or context.destination

/-- The context after some steps. -/
def Context.passing (context : Context) (steps : List Step) : Context :=
  { context with destination := context.destinationAfter steps }

@[simp] theorem Context.passing_nil (context : Context) : context.passing [] = context := by
  simp [Context.passing, Context.destinationAfter]

theorem Context.passing_append (context : Context) (first second : List Step) :
    context.passing (first ++ second) = (context.passing first).passing second := by
  have hsaved : Step.savedPath? (context.passing first) = Step.savedPath? context := by
    funext step
    cases step <;> rfl
  simp only [Context.passing, Context.destinationAfter] at hsaved ⊢
  rw [hsaved, List.filterMap_append, List.getLast?_append, Option.or_assoc]

/-- A step that saves the backup needs a connection, and leaves the path that it saves it at. -/
theorem Step.forward_save_eq_ok_iff {cores : Nat} {destFile : Template} {context after : Context}
    {text : String} : (Step.save destFile).forward cores context = .ok (text, after) ↔
      ∃ connection, context.connection = some connection ∧
        "cat > " ++ destFile.render (context.values connection) = text ∧
        { context with destination := some (destFile.render (context.values connection)) } =
          after := by
  rw [Step.forward, Context.needConnection]
  cases context.connection <;> simp [bind, Except.bind]

/-- A step that uploads the backup needs its path. -/
theorem Step.forward_push_eq_ok_iff {cores : Nat} {upload : Upload} {context after : Context}
    {text : String} : (Step.push upload).forward cores context = .ok (text, after) ↔
      ∃ path, context.destination = some path ∧ upload.forward path = text ∧ context = after := by
  rw [Step.forward, Context.needDestination]
  cases context.destination <;> simp [bind, Except.bind]

/-- A step leaves the context that passing it gives. -/
theorem Step.context_of_forward {cores : Nat} {step : Step} {context after : Context}
    {text : String} (h : step.forward cores context = .ok (text, after)) :
    after = context.passing [step] := by
  cases step with
  | save destFile =>
    obtain ⟨connection, hconnection, rfl, rfl⟩ := Step.forward_save_eq_ok_iff.1 h
    simp [Context.passing, Context.destinationAfter, Step.savedPath?, hconnection]
  | push upload =>
    obtain ⟨_, _, rfl, rfl⟩ := Step.forward_push_eq_ok_iff.1 h
    exact (Context.passing_nil context).symm
  | archive | compress | encrypt | sign | sync =>
    simp only [Step.forward, Except.ok.injEq, Prod.mk.injEq] at h
    rw [← h.2]
    exact (Context.passing_nil context).symm

/-! ### Fragments -/

/-- The fragments of steps, one after the other. -/
def Step.fragments (cores : Nat) : List Step → Activity Context (List String)
  | [] => pure []
  | step :: rest => do
    let fragment ← Activity.changing fun context => step.forward cores context
    let fragments ← Step.fragments cores rest
    pure (fragment :: fragments)

section Fragments
variable {cores : Nat} {context between after : Context} {fragments texts more : List String}

theorem Step.fragments_nil_eq_ok_iff :
    (Step.fragments cores []).outcome context = (.ok fragments, after) ↔
      fragments = [] ∧ after = context := by
  rw [Step.fragments, Activity.outcome_pure, Prod.mk.injEq, Except.ok.injEq, eq_comm,
    eq_comm (a := context)]

theorem Step.fragments_cons_eq_ok_iff {step : Step} {rest : List Step} :
    (Step.fragments cores (step :: rest)).outcome context = (.ok fragments, after) ↔
      ∃ text between texts, step.forward cores context = .ok (text, between) ∧
        (Step.fragments cores rest).outcome between = (.ok texts, after) ∧
        fragments = text :: texts := by
  rw [Step.fragments]
  simp only [Activity.outcome_bind_eq_ok_iff, Activity.outcome_changing_eq_ok_iff,
    Activity.outcome_pure, Prod.mk.injEq, Except.ok.injEq]
  constructor
  · rintro ⟨text, between, hstep, texts, _, hrest, rfl, rfl⟩
    exact ⟨text, between, texts, hstep, hrest, rfl⟩
  · rintro ⟨text, between, texts, hstep, hrest, rfl⟩
    exact ⟨text, between, hstep, texts, after, hrest, rfl, rfl⟩

/-- There is a fragment for each step, and the context left is the one after all steps. -/
theorem Step.of_fragments {steps : List Step}
    (h : (Step.fragments cores steps).outcome context = (.ok fragments, after)) :
    fragments.length = steps.length ∧ after = context.passing steps := by
  induction steps generalizing context fragments with
  | nil =>
    obtain ⟨rfl, rfl⟩ := Step.fragments_nil_eq_ok_iff.1 h
    exact ⟨rfl, (Context.passing_nil after).symm⟩
  | cons step rest ih =>
    obtain ⟨text, between, texts, hstep, hrest, rfl⟩ := Step.fragments_cons_eq_ok_iff.1 h
    obtain ⟨hlength, hafter⟩ := ih hrest
    rw [Step.context_of_forward hstep, ← Context.passing_append] at hafter
    exact ⟨congrArg (· + 1) hlength, hafter⟩

theorem Step.fragments_append {first second : List Step}
    (hfirst : (Step.fragments cores first).outcome context = (.ok texts, between))
    (hsecond : (Step.fragments cores second).outcome between = (.ok more, after)) :
    (Step.fragments cores (first ++ second)).outcome context = (.ok (texts ++ more), after) := by
  induction first generalizing context texts with
  | nil =>
    obtain ⟨rfl, rfl⟩ := Step.fragments_nil_eq_ok_iff.1 hfirst
    exact hsecond
  | cons step rest ih =>
    obtain ⟨text, half, texts, hstep, hrest, rfl⟩ := Step.fragments_cons_eq_ok_iff.1 hfirst
    exact Step.fragments_cons_eq_ok_iff.2 ⟨text, half, texts ++ more, hstep, ih hrest, rfl⟩

/-- The fragments of two lists of steps fall into those of the first and those of the second,
which start where the first ones leave the context. -/
theorem Step.halves_of_fragments {first second : List Step}
    (h : (Step.fragments cores (first ++ second)).outcome context = (.ok fragments, after)) :
    (Step.fragments cores first).outcome context =
        (.ok (fragments.take first.length), context.passing first) ∧
      (Step.fragments cores second).outcome (context.passing first) =
        (.ok (fragments.drop first.length), after) := by
  induction first generalizing context fragments with
  | nil => exact ⟨by rw [Context.passing_nil]; rfl, by rw [Context.passing_nil]; exact h⟩
  | cons step rest ih =>
    obtain ⟨text, between, texts, hstep, hrest, rfl⟩ := Step.fragments_cons_eq_ok_iff.1 h
    obtain ⟨hfirst, hsecond⟩ := ih hrest
    have hpassing : between.passing rest = context.passing (step :: rest) := by
      rw [Step.context_of_forward hstep, ← Context.passing_append]
      rfl
    rw [hpassing] at hfirst hsecond
    exact ⟨Step.fragments_cons_eq_ok_iff.2 ⟨text, between, _, hstep, hfirst, rfl⟩, hsecond⟩

/-- **Each fragment is that of its step in the context after the steps before it.** -/
theorem Step.fragment_at {before rest : List Step} {step : Step}
    (h : (Step.fragments cores (before ++ step :: rest)).outcome context =
      (.ok fragments, after)) :
    ∃ text left, fragments[before.length]? = some text ∧
      step.forward cores (context.passing before) = .ok (text, left) := by
  obtain ⟨_, hrest⟩ := Step.halves_of_fragments h
  obtain ⟨text, left, texts, hstep, _, htexts⟩ := Step.fragments_cons_eq_ok_iff.1 hrest
  refine ⟨text, left, ?_, hstep⟩
  rw [← List.head?_drop, htexts]
  rfl

/-- Steps have their fragments if and only if each has its own after the steps before it. -/
theorem Step.fragments_ok_iff {steps : List Step} :
    (∃ fragments after, (Step.fragments cores steps).outcome context = (.ok fragments, after)) ↔
      ∀ before step rest, steps = before ++ step :: rest →
        ∃ text left, step.forward cores (context.passing before) = .ok (text, left) := by
  constructor
  · rintro ⟨fragments, after, h⟩ before step rest rfl
    obtain ⟨text, left, _, hstep⟩ := Step.fragment_at h
    exact ⟨text, left, hstep⟩
  · intro h
    induction steps generalizing context with
    | nil => exact ⟨[], context, rfl⟩
    | cons step rest ih =>
      obtain ⟨text, left, hstep⟩ := h [] step rest rfl
      rw [Context.passing_nil] at hstep
      have hleft := Step.context_of_forward hstep
      have hlater : ∀ before later more, rest = before ++ later :: more →
          ∃ text after, later.forward cores (left.passing before) = .ok (text, after) := by
        intro before later more heq
        have := h (step :: before) later more (by rw [heq]; rfl)
        rwa [← List.singleton_append, Context.passing_append, ← hleft] at this
      obtain ⟨texts, after, hrest⟩ := ih hlater
      exact ⟨text :: texts, after, Step.fragments_cons_eq_ok_iff.2
        ⟨text, left, texts, hstep, hrest, rfl⟩⟩

end Fragments

/-! ### Layout -/

mutual

/-- The command of an operation that has the given fragments in the places of the steps it
reaches. -/
def Operation.laidOut (context : Context) : Operation → List String → Except Failure String
  | .step _, fragments => .ok (fragments.headD "")
  | .pipeline locals remotes transport, fragments => do
    let count := (Operation.reachedAll locals).length
    let localCommands ← Operation.laidOutAll context locals (fragments.take count)
    match transport with
    | none => .ok (Operation.piped localCommands)
    | some transport => do
      let remoteCommands ← Operation.laidOutAll context remotes (fragments.drop count)
      transport.wrap context (Operation.piped localCommands) (Operation.chained remoteCommands)

def Operation.laidOutAll (context : Context) :
    List Operation → List String → Except Failure (List String)
  | [], _ => .ok []
  | operation :: rest, fragments => do
    let count := operation.reached.length
    let command ← operation.laidOut context (fragments.take count)
    let commands ← Operation.laidOutAll context rest (fragments.drop count)
    .ok (command :: commands)

end

mutual

/-- A layout does not depend on where the backup is saved. -/
theorem Operation.laidOut_passing (context : Context) (steps : List Step) (operation : Operation)
    (fragments : List String) :
    operation.laidOut (context.passing steps) fragments = operation.laidOut context fragments := by
  cases operation with
  | step single => rfl
  | pipeline locals remotes transport =>
    rw [Operation.laidOut, Operation.laidOut, Operation.laidOutAll_passing context steps locals]
    cases transport with
    | none => rfl
    | some transport =>
      simp only [Operation.laidOutAll_passing context steps remotes]
      rfl

theorem Operation.laidOutAll_passing (context : Context) (steps : List Step)
    (operations : List Operation) (fragments : List String) :
    Operation.laidOutAll (context.passing steps) operations fragments =
      Operation.laidOutAll context operations fragments := by
  cases operations with
  | nil => rfl
  | cons operation rest =>
    rw [Operation.laidOutAll, Operation.laidOutAll,
      Operation.laidOut_passing context steps operation,
      Operation.laidOutAll_passing context steps rest]

end

mutual

/-- **A command is spelled if and only if the steps reached have their fragments and these can
be laid out**; it is then the layout of the fragments. -/
theorem Operation.spelled_eq_ok_iff (cores : Nat) (operation : Operation)
    {context after : Context} {command : String} :
    (operation.spelled cores).outcome context = (.ok command, after) ↔
      ∃ fragments,
        (Step.fragments cores operation.reached).outcome context = (.ok fragments, after) ∧
        operation.laidOut context fragments = .ok command := by
  cases operation with
  | step single =>
    simp only [Operation.spelled, Operation.reached, Activity.outcome_changing_eq_ok_iff,
      Step.fragments_cons_eq_ok_iff, Step.fragments_nil_eq_ok_iff, Operation.laidOut,
      Except.ok.injEq]
    constructor
    · intro h
      exact ⟨[command], ⟨command, after, [], h, ⟨rfl, rfl⟩, rfl⟩, rfl⟩
    · rintro ⟨_, ⟨text, _, _, h, ⟨rfl, rfl⟩, rfl⟩, rfl⟩
      exact h
  | pipeline locals remotes transport =>
    rw [Operation.spelled]
    simp only [Activity.outcome_bind_eq_ok_iff, Operation.spelledAll_eq_ok_iff cores locals]
    cases transport with
    | none =>
      simp only [Operation.reached, List.append_nil, Operation.laidOut, bind_eq_ok_iff,
        Activity.outcome_pure, Prod.mk.injEq, Except.ok.injEq]
      constructor
      · rintro ⟨commands, _, ⟨fragments, hfragments, hlaid⟩, rfl, rfl⟩
        refine ⟨fragments, hfragments, commands, ?_, rfl⟩
        rwa [List.take_of_length_le (Nat.le_of_eq (Step.of_fragments hfragments).1)]
      · rintro ⟨fragments, hfragments, commands, hlaid, rfl⟩
        rw [List.take_of_length_le (Nat.le_of_eq (Step.of_fragments hfragments).1)] at hlaid
        exact ⟨commands, after, ⟨fragments, hfragments, hlaid⟩, rfl, rfl⟩
    | some transport =>
      simp only [Operation.reached, Operation.laidOut, bind_eq_ok_iff,
        Activity.outcome_bind_eq_ok_iff, Operation.spelledAll_eq_ok_iff cores remotes,
        Activity.outcome_reading, Prod.mk.injEq]
      constructor
      · rintro ⟨localCommands, _, ⟨texts, htexts, hlocals⟩, remoteCommands, _,
          ⟨more, hmore, hremotes⟩, hwrap, rfl⟩
        obtain ⟨hlength, rfl⟩ := Step.of_fragments htexts
        obtain ⟨_, rfl⟩ := Step.of_fragments hmore
        rw [Operation.laidOutAll_passing] at hremotes
        refine ⟨texts ++ more, Step.fragments_append htexts hmore, localCommands, ?_,
          remoteCommands, ?_, hwrap⟩
        · rwa [List.take_left' hlength]
        · rwa [List.drop_left' hlength]
      · rintro ⟨fragments, hfragments, localCommands, hlocals, remoteCommands, hremotes, hwrap⟩
        obtain ⟨htexts, hmore⟩ := Step.halves_of_fragments hfragments
        obtain ⟨_, rfl⟩ := Step.of_fragments hmore
        refine ⟨localCommands, _, ⟨_, htexts, hlocals⟩, remoteCommands, _, ⟨_, hmore, ?_⟩,
          hwrap, rfl⟩
        rwa [Operation.laidOutAll_passing]

theorem Operation.spelledAll_eq_ok_iff (cores : Nat) (operations : List Operation)
    {context after : Context} {commands : List String} :
    (Operation.spelledAll cores operations).outcome context = (.ok commands, after) ↔
      ∃ fragments,
        (Step.fragments cores (Operation.reachedAll operations)).outcome context =
          (.ok fragments, after) ∧
        Operation.laidOutAll context operations fragments = .ok commands := by
  cases operations with
  | nil =>
    simp only [Operation.spelledAll, Operation.reachedAll, Step.fragments_nil_eq_ok_iff,
      Operation.laidOutAll, Activity.outcome_pure, Prod.mk.injEq, Except.ok.injEq]
    constructor
    · rintro ⟨rfl, rfl⟩
      exact ⟨[], ⟨rfl, rfl⟩, rfl⟩
    · rintro ⟨_, ⟨rfl, rfl⟩, rfl⟩
      exact ⟨rfl, rfl⟩
  | cons operation rest =>
    simp only [Operation.spelledAll, Operation.reachedAll, Operation.laidOutAll,
      Activity.outcome_bind_eq_ok_iff, bind_eq_ok_iff, Activity.outcome_pure,
      Operation.spelled_eq_ok_iff cores operation, Operation.spelledAll_eq_ok_iff cores rest,
      Prod.mk.injEq, Except.ok.injEq]
    constructor
    · rintro ⟨command, _, ⟨texts, htexts, hfirst⟩, commands, _, ⟨more, hmore, hrest⟩, rfl, rfl⟩
      obtain ⟨hlength, rfl⟩ := Step.of_fragments htexts
      rw [Operation.laidOutAll_passing] at hrest
      refine ⟨texts ++ more, Step.fragments_append htexts hmore, command, ?_, commands, ?_, rfl⟩
      · rwa [List.take_left' hlength]
      · rwa [List.drop_left' hlength]
    · rintro ⟨fragments, hfragments, command, hfirst, commands, hrest, rfl⟩
      obtain ⟨htexts, hmore⟩ := Step.halves_of_fragments hfragments
      refine ⟨command, _, ⟨_, htexts, hfirst⟩, commands, after, ⟨_, hmore, ?_⟩, rfl, rfl⟩
      rwa [Operation.laidOutAll_passing]

end

end FolderBackup
