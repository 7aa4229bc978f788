import FolderBackup.Proofs.Dataflow
import FolderBackup.Proofs.StillWorld

/-! Verification below the top.

Every pipeline inside a pipeline is verified once more when its own commands are built, after
steps before it have already changed the context. In a world that stays the same none of these
verifications can fail, because the one at the top has covered them and because what they look at
is not what the steps change. So there is one verification that matters, and it comes before
anything else (`Pipeline.forward_verified_once`). -/
namespace FolderBackup

variable {σ : Type} {around : Surroundings σ} {world : World} {among : σ → Prop}

/-- Noted beside the state, the verification of what verifies in the world adds a good note to
good notes. -/
theorem Operation.noted_of_still (still : around.HoldStill world among) {operation : Operation}
    {context : Context} (h : operation.verified world context = .ok ()) :
    (Handing.ofActivity ((Operation.verifying around).noted operation)).Follows (pure ())
      (fun noted => among noted.1 ∧ ∀ note ∈ noted.2, note = .ok ()) context := by
  rintro ⟨state, notes⟩ ⟨hstate, hnotes⟩
  obtain ⟨later, hlater, hverify⟩ := Operation.verify_of_still still context operation hstate
  rw [h] at hverify
  refine ⟨(later, notes ++ [.ok ()]), ⟨hlater, ?_⟩, ?_⟩
  · intro note hnote
    rcases List.mem_append.1 hnote with hnote | hnote
    · exact hnotes note hnote
    · exact List.mem_singleton.1 hnote
  · rw [Handing.outcome_ofActivity, Check.outcome_noted, Operation.verifying, hverify]
    rfl

/-- Nothing is found wrong where nothing is looked at, and the state stays as it is. -/
theorem Operation.unchecked_follows (operation : Operation) (context : Context) (state : σ) :
    (Handing.ofActivity (Operation.unchecked operation)).Follows (pure ()) (· = state)
      context := by
  rintro _ rfl
  exact ⟨_, rfl, rfl⟩

/-- What verifies in the world has its command built without a single verification failing, and
just as if nothing were verified. -/
theorem Operation.forward_noted_of_verified (still : around.HoldStill world among)
    (operation : Operation) {context : Context}
    (h : operation.verified world context = .ok ()) {state : σ} (hstate : among state) :
    ∃ result left later notes,
      (operation.forward around).outcome context state = (result, left, later) ∧
      (operation.traversed around.cores (Operation.verifying around).noted).outcome context
        (state, []) = (result, left, (later, notes)) ∧
      (∀ note ∈ notes, note = .ok ()) ∧
      (operation.traversed around.cores Operation.unchecked).outcome context state =
        (result, left, state) := by
  obtain ⟨later, _, hforward⟩ := Operation.forward_of_verified still operation h state hstate
  obtain ⟨⟨_, notes⟩, ⟨_, hnotes⟩, hnoted⟩ := Operation.traversed_of_verified
    (Operation.noted_of_still still) around.cores operation h (state, []) ⟨hstate, by simp⟩
  obtain ⟨_, hsame, hunchecked⟩ := Operation.traversed_of_verified
    (fun {operation context} _ => Operation.unchecked_follows operation context state)
    around.cores operation h state rfl
  rw [hsame] at hunchecked
  obtain ⟨made, hmade⟩ := Operation.traversed_noted around.cores (Operation.verifying around)
    operation context state []
  rw [← Operation.forward_eq_traversed, hforward, hnoted, List.nil_append] at hmade
  obtain rfl : notes = made := congrArg (fun outcome => outcome.2.2.2) hmade
  refine ⟨_, _, later, notes, hforward, ?_, hnotes, hunchecked⟩
  rw [hnoted, hmade]

/-- **Verification counts once, and before anything else.** A pipeline that does not verify has no
command for that very cause, and its context is as it was. In a world that stays the same, none of
the verifications made while the command of one that does is built can fail, and what comes out is
what the traversal without any of them gives. However building ends, it changes nothing of the
context but the path of the backup. -/
theorem Pipeline.forward_verified_once (around : Surroundings σ) (pipeline : Pipeline)
    (context : Context) (state : σ) :
    (∀ failure after, (pipeline.verify around context).outcome state = (.error failure, after) →
      (pipeline.forward around).outcome context state = (.error failure, context, after)) ∧
    (∀ world among, around.HoldStill world among → among state →
      ((pipeline.verify around context).outcome state).1 = .ok () →
      ∃ result left later notes,
        (pipeline.forward around).outcome context state = (result, left, later) ∧
        (pipeline.toOperation.traversed around.cores (Operation.verifying around).noted).outcome
          context (state, []) = (result, left, (later, notes)) ∧
        (∀ note ∈ notes, note = .ok ()) ∧
        (pipeline.toOperation.traversed around.cores Operation.unchecked).outcome context state =
          (result, left, state)) ∧
    ∃ path, ((pipeline.forward around).outcome context state).2.1 =
      { context with destination := path } := by
  refine ⟨fun failure after h => Pipeline.forward_of_verify_error h, ?_, ?_⟩
  · intro world among still hstate hverify
    obtain ⟨_, _, hsettled⟩ :=
      Operation.verify_of_still still context pipeline.toOperation hstate
    have hverified : pipeline.toOperation.verified world context = .ok () :=
      (congrArg Prod.fst hsettled).symm.trans hverify
    exact Operation.forward_noted_of_verified still pipeline.toOperation hverified hstate
  · rw [Pipeline.forward, Operation.forward_eq_traversed]
    exact Operation.traversed_keeps around.cores _ pipeline.toOperation context state

/-- A tool that is asked for by its name alone is there if the world has it. -/
theorem Preflight.tool_of_name (world : World) {name : String} (hempty : name ≠ "")
    (hdash : name.startsWith "-" = false) (hslash : name.contains '/' = false) :
    tool world name = if world.hasTool name then .ok () else .error (.toolMissing name) := by
  simp only [tool, Shell.Tool.whichFinds, hempty, hdash, hslash]
  rfl

/-- A compressor is there if the world has it. -/
theorem Compression.Algorithm.tool_of_world (world : World) (algorithm : Compression.Algorithm) :
    Preflight.tool world algorithm.tool =
      if world.hasTool algorithm.tool then .ok () else .error (.toolMissing algorithm.tool) := by
  cases algorithm <;>
    exact Preflight.tool_of_name world (by decide) (by simp [tool]) (by simp [tool])

/-- Compressed twice on one side, the first time inside a command, and once more on the other. -/
def Pipeline.squeezing : Pipeline where
  locals := [
    .pipeline [.step .sync, .step (.compress ⟨.gzip, none, some 2⟩)] [] none,
    .step (.compress ⟨.bzip, some 9, none⟩)]
  remotes := [
    .step (.save ⟨"{dest_folder}/{dest_filename}{extensions}"⟩),
    .pipeline [.step (.compress ⟨.gzip, some 1, none⟩)] [.step .sync] none]
  transport := some .ssh

theorem Pipeline.verified_squeezing (context : Context) :
    Pipeline.squeezing.toOperation.verified World.usual context = .ok () := by
  simp only [squeezing, toOperation, Operation.verified, Operation.verifiedAll, Step.verified,
    Step.check, Compression.Algorithm.tool_of_world]
  rfl

/-- A world in which only one of the compressors is there. -/
def World.withoutBzip : World := { World.usual with tools := ["pigz"] }

theorem Pipeline.verified_squeezing_withoutBzip (context : Context) :
    Pipeline.squeezing.toOperation.verified World.withoutBzip context =
      .error (.within (Operation.step (.compress ⟨.bzip, some 9, none⟩)).verifyHeading
        (.misconfigured (.toolMissing "pbzip2"))) := by
  simp only [squeezing, toOperation, Operation.verified, Operation.verifiedAll, Step.verified,
    Step.check, Compression.Algorithm.tool_of_world]
  rfl

theorem Pipeline.forward_verified_once_squeezing :
    (∃ result left later notes,
      (Pipeline.squeezing.forward (Scene.surroundings 4)).outcome .remote
        (Scene.ofWorld World.usual ⟨0, 0⟩) = (result, left, later) ∧
      (Pipeline.squeezing.toOperation.traversed 4
        (Operation.verifying (Scene.surroundings 4)).noted).outcome .remote
          (Scene.ofWorld World.usual ⟨0, 0⟩, []) = (result, left, (later, notes)) ∧
      (∀ note ∈ notes, note = .ok ()) ∧
      (Pipeline.squeezing.toOperation.traversed 4 Operation.unchecked).outcome .remote
        (Scene.ofWorld World.usual ⟨0, 0⟩) = (result, left, Scene.ofWorld World.usual ⟨0, 0⟩)) ∧
    ∃ after, (Pipeline.squeezing.forward (Scene.surroundings 4)).outcome .remote
      (Scene.ofWorld World.withoutBzip ⟨0, 0⟩) =
        (.error (.within (Operation.step (.compress ⟨.bzip, some 9, none⟩)).verifyHeading
          (.misconfigured (.toolMissing "pbzip2"))), .remote, after) := by
  have still := Scene.surroundings_holdStill 4 World.usual
  have hscene : (Scene.ofWorld World.usual ⟨0, 0⟩).world = World.usual := rfl
  obtain ⟨_, _, hverify⟩ :=
    Operation.verify_of_still still .remote Pipeline.squeezing.toOperation hscene
  rw [Pipeline.verified_squeezing] at hverify
  obtain ⟨after, _, hfail⟩ := Operation.verify_of_still
    (Scene.surroundings_holdStill 4 World.withoutBzip) .remote Pipeline.squeezing.toOperation
    (rfl : (Scene.ofWorld World.withoutBzip ⟨0, 0⟩).world = World.withoutBzip)
  rw [Pipeline.verified_squeezing_withoutBzip] at hfail
  exact ⟨(Pipeline.forward_verified_once (Scene.surroundings 4) .squeezing .remote
      (Scene.ofWorld World.usual ⟨0, 0⟩)).2.1 World.usual _ still hscene
        (congrArg Prod.fst hverify),
    after, (Pipeline.forward_verified_once (Scene.surroundings 4) .squeezing .remote
      (Scene.ofWorld World.withoutBzip ⟨0, 0⟩)).1 _ after hfail⟩

end FolderBackup
