import FolderBackup.Proofs.Buildable
import FolderBackup.Proofs.VerifiedOnce

/-! Commands inside commands.

A pipeline without a transport and without remote operations does nothing but pipe its local
operations together. Put in the place of an operation of another pipeline's local half it could as
well be left out and its operations written there instead: pipes inside pipes are one pipe
(`Operation.piped_splice`), the path of the backup goes through the same steps in the same order,
and the same checks are made in the same order, under one heading less
(`Operation.root_verifiedAll_splice`). So in a world that stays the same both pipelines come to the
same command, or fail for the same cause (`Pipeline.forward_splice`). -/
namespace FolderBackup

/-! ### Pipes -/

theorem Operation.piped_append_congr (before : List String) {first second : List String}
    (hfirst : first ≠ []) (hsecond : second ≠ [])
    (h : Operation.piped first = Operation.piped second) :
    Operation.piped (before ++ first) = Operation.piped (before ++ second) := by
  by_cases hbefore : before = []
  · rw [hbefore]
    exact h
  · unfold Operation.piped at h ⊢
    rw [String.intercalate_append_of_ne_nil hbefore hfirst,
      String.intercalate_append_of_ne_nil hbefore hsecond, h]

/-- Pipes inside pipes are one pipe. -/
theorem Operation.piped_splice (before after : List String) {inner : List String}
    (hinner : inner ≠ []) :
    Operation.piped (before ++ Operation.piped inner :: after) =
      Operation.piped (before ++ (inner ++ after)) := by
  refine Operation.piped_append_congr before (List.cons_ne_nil _ _)
    (List.append_ne_nil_of_left_ne_nil hinner after) ?_
  by_cases hafter : after = []
  · rw [hafter, List.append_nil]
    exact String.intercalate_singleton
  · unfold Operation.piped
    rw [String.intercalate_cons_of_ne_nil hafter,
      String.intercalate_append_of_ne_nil hinner hafter]

/-! ### Spelling -/

theorem Operation.spelledAll_append (cores : Nat) (first second : List Operation) :
    Operation.spelledAll cores (first ++ second) =
      Operation.spelledAll cores first >>= fun texts =>
        Operation.spelledAll cores second >>= fun more => pure (texts ++ more) := by
  induction first with
  | nil => simp [Operation.spelledAll]
  | cons operation rest ih => simp [Operation.spelledAll, ih]

/-- What the operations of a command are piped to is the same wherever they are written. -/
theorem Operation.piped_spelledAll_splice (cores : Nat) (before after : List Operation)
    {inner : List Operation} (hinner : inner ≠ []) :
    Operation.piped <$> Operation.spelledAll cores
        (before ++ .pipeline inner [] none :: after) =
      Operation.piped <$> Operation.spelledAll cores (before ++ (inner ++ after)) := by
  obtain ⟨operation, rest, rfl⟩ := List.exists_cons_of_ne_nil hinner
  have hpiped : ∀ (texts more : List String) (text : String) (others : List String),
      Operation.piped (texts ++ Operation.piped (text :: others) :: more) =
        Operation.piped (texts ++ ((text :: others) ++ more)) :=
    fun texts more text others => Operation.piped_splice texts more (List.cons_ne_nil text others)
  rw [Operation.spelledAll_append, Operation.spelledAll_append, Operation.spelledAll_append]
  simp only [Operation.spelledAll, Operation.spelled, map_bind, bind_assoc, pure_bind, map_pure,
    hpiped]

theorem Operation.spelled_splice (cores : Nat) (before after remotes : List Operation)
    {inner : List Operation} (hinner : inner ≠ []) (transport : Option Transport) :
    (Operation.pipeline (before ++ .pipeline inner [] none :: after) remotes transport).spelled
        cores =
      (Operation.pipeline (before ++ (inner ++ after)) remotes transport).spelled cores := by
  have hpiped := Operation.piped_spelledAll_splice cores before after hinner
  rw [Operation.spelled, Operation.spelled]
  -- a pipeline makes use of its local commands only once they are piped together
  cases transport with
  | none => exact hpiped
  | some transport =>
    have hnext := congrArg (· >>= fun text => Operation.spelledAll cores remotes >>= fun commands =>
      Activity.reading fun context => transport.wrap context text (Operation.chained commands))
      hpiped
    simpa only [bind_map_left] using hnext

/-! ### Verification -/

theorem Failure.mapError_root_bind {α β : Type} (result : Except Failure α)
    (next : α → Except Failure β) :
    (result >>= next).mapError root =
      result.mapError root >>= fun value => (next value).mapError root := by
  cases result <;> rfl

/-- Headings do not change the root. -/
theorem Failure.mapError_root_underHeading {α : Type} (heading : Heading)
    (result : Except Failure α) :
    (underHeading heading result).mapError root = result.mapError root := by
  cases result <;> rfl

/-- Results of the same root are failures of the same root, or the same value. -/
theorem Failure.cases_of_mapError_root {α : Type} {first second : Except Failure α}
    (h : first.mapError root = second.mapError root) :
    (∃ failure cause, first = .error failure ∧ second = .error cause ∧
      failure.root = cause.root) ∨
    ∃ value, first = .ok value ∧ second = .ok value := by
  cases first with
  | error failure =>
    cases second with
    | error cause => exact .inl ⟨failure, cause, rfl, rfl, Except.error.inj h⟩
    | ok value => cases h
  | ok value =>
    cases second with
    | error cause => cases h
    | ok other => exact .inr ⟨value, rfl, congrArg Except.ok (Except.ok.inj h).symm⟩

theorem Operation.verifiedAll_append (world : World) (context : Context)
    (first second : List Operation) :
    Operation.verifiedAll world context (first ++ second) =
      Operation.verifiedAll world context first >>= fun _ =>
        Operation.verifiedAll world context second := by
  induction first with
  | nil => rfl
  | cons operation rest ih =>
    rw [List.cons_append, Operation.verifiedAll, Operation.verifiedAll, ih, bind_assoc]

/-- The first check that fails is the same wherever the operations of a command are written. -/
theorem Operation.root_verifiedAll_splice (world : World) (context : Context)
    (before inner after : List Operation) :
    (Operation.verifiedAll world context
        (before ++ .pipeline inner [] none :: after)).mapError Failure.root =
      (Operation.verifiedAll world context
        (before ++ (inner ++ after))).mapError Failure.root := by
  have hcommand : (Operation.pipeline inner [] none).verified world context =
      Operation.verifiedAll world context inner := by
    rw [Operation.verified]
    cases Operation.verifiedAll world context inner <;> rfl
  rw [Operation.verifiedAll_append, Operation.verifiedAll_append, Operation.verifiedAll_append,
    Operation.verifiedAll, hcommand]
  simp only [Failure.mapError_root_bind, Failure.mapError_root_underHeading]

theorem Operation.root_verified_splice (world : World) (context : Context)
    (before inner after remotes : List Operation) (transport : Option Transport) :
    ((Operation.pipeline (before ++ .pipeline inner [] none :: after) remotes transport).verified
        world context).mapError Failure.root =
      ((Operation.pipeline (before ++ (inner ++ after)) remotes transport).verified
        world context).mapError Failure.root := by
  rw [Operation.verified, Operation.verified, Failure.mapError_root_bind,
    Failure.mapError_root_bind, Operation.root_verifiedAll_splice]

/-! ### Building -/

section Still
variable {σ : Type} {around : Surroundings σ} {world : World} {among : σ → Prop}

/-- **A command inside a pipeline is invisible.** Let a pipeline have, anywhere in its local half, a
pipeline without transport and without remote operations, but with local ones; and let another
have those written in its place. In a world that stays the same both have the same command and
leave the same context, or both fail, and then for the same cause. -/
theorem Pipeline.forward_splice (still : around.HoldStill world among) {pipeline inner : Pipeline}
    {before after : List Operation}
    (hlocals : pipeline.locals = before ++ inner.toOperation :: after)
    (htransport : inner.transport = none) (hremotes : inner.remotes = [])
    (hinner : inner.locals ≠ []) (context : Context) {state other : σ} (hstate : among state)
    (hother : among other) :
    (∃ command left later last,
      (pipeline.forward around).outcome context state = (.ok command, left, later) ∧
      (Pipeline.forward around { pipeline with locals := before ++ (inner.locals ++ after) }).outcome
        context other = (.ok command, left, last)) ∨
    ∃ failure cause left later last,
      (pipeline.forward around).outcome context state = (.error failure, left, later) ∧
      (Pipeline.forward around { pipeline with locals := before ++ (inner.locals ++ after) }).outcome
        context other = (.error cause, left, last) ∧
      failure.root = cause.root := by
  obtain ⟨_, remotes, transport⟩ := pipeline
  obtain ⟨operations, _, _⟩ := inner
  obtain rfl : _ = none := htransport
  obtain rfl : _ = [] := hremotes
  obtain rfl : _ = before ++ Operation.pipeline operations [] none :: after := hlocals
  obtain ⟨later, hnested⟩ := Pipeline.outcome_forward_of_still still
    ⟨before ++ .pipeline operations [] none :: after, remotes, transport⟩ context hstate
  obtain ⟨last, hspliced⟩ := Pipeline.outcome_forward_of_still still
    ⟨before ++ (operations ++ after), remotes, transport⟩ context hother
  have hroot := Operation.root_verified_splice world context before operations after remotes
    transport
  have hspelled := Operation.spelled_splice around.cores before after remotes hinner transport
  unfold Pipeline.toOperation at hnested hspliced
  rw [hspelled] at hnested
  -- the same checks are made of both, so either both are stopped by one or none is
  rcases Failure.cases_of_mapError_root hroot with
    ⟨failure, cause, hfirst, hsecond, hcause⟩ | ⟨_, hfirst, hsecond⟩
  · rw [hfirst] at hnested
    rw [hsecond] at hspliced
    exact .inr ⟨failure, cause, context, later, last, hnested, hspliced, hcause⟩
  · rw [hfirst] at hnested
    rw [hsecond] at hspliced
    rcases houtcome : ((Operation.pipeline (before ++ (operations ++ after)) remotes
      transport).spelled around.cores).outcome context with ⟨failure | command, left⟩
    · rw [houtcome] at hnested hspliced
      exact .inr ⟨failure, failure, left, later, last, hnested, hspliced, rfl⟩
    · rw [houtcome] at hnested hspliced
      exact .inl ⟨command, left, later, last, hnested, hspliced⟩

end Still

/-- The command at the start of `Pipeline.squeezing`, as a pipeline of its own. -/
def Pipeline.squeezingFirst : Pipeline :=
  ⟨[.step .sync, .step (.compress ⟨.gzip, none, some 2⟩)], [], none⟩

theorem Pipeline.forward_splice_squeezing :
    ∃ left later last,
      (Pipeline.squeezing.forward (Scene.surroundings 4)).outcome .remote
        (Scene.ofWorld World.usual ⟨0, 0⟩) = (.ok ("sync | pigz -i -b 1024 -p 2 --to-stdout -6 | " ++
          "pbzip2 -p4 --to-stdout -9 | ssh backup@nas 'cat > /data/documents.tar && " ++
          "pigz -i -b 1024 -p 4 --to-stdout -1'"), left, later) ∧
      (Pipeline.forward (Scene.surroundings 4) { Pipeline.squeezing with
        locals := [.step .sync, .step (.compress ⟨.gzip, none, some 2⟩),
          .step (.compress ⟨.bzip, some 9, none⟩)] }).outcome .remote
        (Scene.ofWorld World.usual ⟨0, 0⟩) = (.ok ("sync | pigz -i -b 1024 -p 2 --to-stdout -6 | " ++
          "pbzip2 -p4 --to-stdout -9 | ssh backup@nas 'cat > /data/documents.tar && " ++
          "pigz -i -b 1024 -p 4 --to-stdout -1'"), left, last) := by
  have still := Scene.surroundings_holdStill 4 World.usual
  have hscene : (Scene.ofWorld World.usual ⟨0, 0⟩).world = World.usual := rfl
  have hlocals : Pipeline.squeezing.locals = [] ++ Pipeline.squeezingFirst.toOperation ::
      [.step (.compress ⟨.bzip, some 9, none⟩)] := rfl
  have hspelled : ((Pipeline.squeezing.toOperation.spelled 4).outcome .remote).1 =
      .ok ("sync | pigz -i -b 1024 -p 2 --to-stdout -6 | " ++
        "pbzip2 -p4 --to-stdout -9 | ssh backup@nas 'cat > /data/documents.tar && " ++
        "pigz -i -b 1024 -p 4 --to-stdout -1'") := eq_ok_of_toOption (by decide +kernel)
  obtain ⟨_, _, hforward⟩ := Operation.forward_of_verified still
    Pipeline.squeezing.toOperation (Pipeline.verified_squeezing .remote) _ hscene
  have hcommand : ((Pipeline.squeezing.forward (Scene.surroundings 4)).outcome .remote
      (Scene.ofWorld World.usual ⟨0, 0⟩)).1 = _ := (congrArg Prod.fst hforward).trans hspelled
  rcases Pipeline.forward_splice still hlocals rfl rfl (List.cons_ne_nil _ _) .remote hscene hscene
    with ⟨command, left, later, last, hnested, hspliced⟩ | ⟨failure, _, _, _, _, hnested, _⟩
  · rw [hnested] at hcommand
    obtain rfl : command = _ := Except.ok.inj hcommand
    exact ⟨left, later, last, hnested, hspliced⟩
  · rw [hnested] at hcommand
    cases hcommand

end FolderBackup
