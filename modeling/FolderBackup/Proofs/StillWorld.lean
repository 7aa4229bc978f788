import FolderBackup.Proofs.Traversal
import FolderBackup.Scene

/-! Commands in a world that stays the same.

Surroundings hold still among some states if in each of them every look shows the same world,
and looking, asking for the time and telling lead to no other states (`HoldStill`). Then what a
verification comes to is settled by the world alone (`Operation.verified`), and of the context
it depends on the folders only. As building a command changes nothing but the path of the
backup, an operation that is verified once is verified at every depth and whenever it is looked
at again: its command is exactly the one spelled (`Operation.forward_of_verified`). -/
namespace FolderBackup

variable {σ : Type}

/-! ### Surroundings that hold still -/

/-- Among these states every look shows the world, and there is no way out of them by looking,
asking for the time or telling. -/
structure Surroundings.HoldStill (around : Surroundings σ) (world : World)
    (among : σ → Prop) : Prop where
  shows : ∀ {state}, among state → (around.look state).1 = world
  look : ∀ {state}, among state → among (around.look state).2
  now : ∀ {state}, among state → among (around.now state).2
  tell : ∀ {state} (event : Event), among state → among (around.tell event state)

/-- A scene's world changes by running scripts only. -/
theorem Scene.surroundings_holdStill (cores : Nat) (world : World) :
    (Scene.surroundings cores).HoldStill world fun scene => scene.world = world where
  shows := id
  look := id
  now := id
  tell _ := id

/-! ### What verification comes to -/

mutual

/-- Whether a world has what every step of an operation needs. -/
def Operation.verified (world : World) (context : Context) : Operation → Except Failure Unit
  | .step single => single.verified world context
  | .pipeline locals remotes _ => do
    Operation.verifiedAll world context locals
    Operation.verifiedAll world context remotes

def Operation.verifiedAll (world : World) (context : Context) :
    List Operation → Except Failure Unit
  | [] => .ok ()
  | operation :: rest => do
    underHeading operation.verifyHeading (operation.verified world context)
    Operation.verifiedAll world context rest

end

/-- A pipeline is verified if both halves are. -/
theorem Operation.verified_pipeline_eq_ok_iff {world : World} {context : Context}
    {locals remotes : List Operation} {transport : Option Transport} :
    (Operation.pipeline locals remotes transport).verified world context = .ok () ↔
      Operation.verifiedAll world context locals = .ok () ∧
        Operation.verifiedAll world context remotes = .ok () := by
  rw [Operation.verified, bind_eq_ok_iff]
  constructor
  · rintro ⟨_, hlocals, hremotes⟩
    exact ⟨hlocals, hremotes⟩
  · rintro ⟨hlocals, hremotes⟩
    exact ⟨(), hlocals, hremotes⟩

theorem Operation.verifiedAll_cons_eq_ok_iff {world : World} {context : Context}
    {operation : Operation} {rest : List Operation} :
    Operation.verifiedAll world context (operation :: rest) = .ok () ↔
      operation.verified world context = .ok () ∧
        Operation.verifiedAll world context rest = .ok () := by
  rw [Operation.verifiedAll, bind_eq_ok_iff]
  cases operation.verified world context with
  | ok _ => simp [underHeading]
  | error failure => simp [underHeading]

mutual

/-- All that verification reads of the context are the folders. -/
theorem Operation.verified_congr (world : World) {context other : Context}
    (h : context.folders = other.folders) (operation : Operation) :
    operation.verified world context = operation.verified world other := by
  cases operation with
  | step single =>
    cases single with
    | archive =>
      simp only [Operation.verified, Step.verified, Step.check]
      rw [h]
    | compress | encrypt | sign | sync | save | push => rfl
  | pipeline locals remotes transport =>
    rw [Operation.verified, Operation.verified, Operation.verifiedAll_congr world h locals,
      Operation.verifiedAll_congr world h remotes]

theorem Operation.verifiedAll_congr (world : World) {context other : Context}
    (h : context.folders = other.folders) (operations : List Operation) :
    Operation.verifiedAll world context operations =
      Operation.verifiedAll world other operations := by
  cases operations with
  | nil => rfl
  | cons operation rest =>
    rw [Operation.verifiedAll, Operation.verifiedAll, Operation.verified_congr world h operation,
      Operation.verifiedAll_congr world h rest]

end

section Still
variable {around : Surroundings σ} {world : World} {among : σ → Prop}

mutual

/-- In surroundings that hold still, verification comes to what the world settles. -/
theorem Operation.verify_of_still (still : around.HoldStill world among) (context : Context)
    (operation : Operation) {state : σ} (hstate : among state) :
    ∃ later, among later ∧
      (operation.verify around context).outcome state =
        (operation.verified world context, later) := by
  cases operation with
  | step single =>
    refine ⟨(around.look state).2, still.look hstate, ?_⟩
    rw [Operation.verify, Step.verify, Activity.outcome_bind_ok (Activity.outcome_ask _ state),
      Activity.outcome_settled, still.shows hstate, Operation.verified]
  | pipeline locals remotes transport =>
    obtain ⟨half, hhalf, hlocals⟩ := Operation.verifyAll_of_still still context locals hstate
    rw [Operation.verify, Operation.verified]
    cases hresult : Operation.verifiedAll world context locals with
    | error failure =>
      rw [hresult] at hlocals
      exact ⟨half, hhalf, Activity.outcome_bind_error hlocals _⟩
    | ok _ =>
      rw [hresult] at hlocals
      obtain ⟨later, hlater, hremotes⟩ := Operation.verifyAll_of_still still context remotes hhalf
      exact ⟨later, hlater, (Activity.outcome_bind_ok hlocals _).trans hremotes⟩

theorem Operation.verifyAll_of_still (still : around.HoldStill world among) (context : Context)
    (operations : List Operation) {state : σ} (hstate : among state) :
    ∃ later, among later ∧
      (Operation.verifyAll around context operations).outcome state =
        (Operation.verifiedAll world context operations, later) := by
  cases operations with
  | nil => exact ⟨state, hstate, rfl⟩
  | cons operation rest =>
    obtain ⟨half, hhalf, hfirst⟩ := Operation.verify_of_still still context operation hstate
    have hunder := Activity.outcome_under operation.verifyHeading
      (operation.verify around context) state
    rw [hfirst] at hunder
    rw [Operation.verifyAll, Operation.verifiedAll]
    cases hresult : operation.verified world context with
    | error failure =>
      rw [hresult] at hunder
      exact ⟨half, hhalf, Activity.outcome_bind_error hunder _⟩
    | ok _ =>
      rw [hresult] at hunder
      obtain ⟨later, hlater, hrest⟩ := Operation.verifyAll_of_still still context rest hhalf
      exact ⟨later, hlater, (Activity.outcome_bind_ok hunder _).trans hrest⟩

end

mutual

/-- Checks that find nothing wrong with what verifies find nothing wrong on the way through an
operation that does: what its traversal comes to is what spelling its command comes to. -/
theorem Operation.traversed_of_verified {τ : Type} {check : Operation.Check τ}
    {allowed : τ → Prop}
    (hcheck : ∀ {operation context}, operation.verified world context = .ok () →
      (Handing.ofActivity (check operation)).Follows (pure ()) allowed context)
    (cores : Nat) (operation : Operation) {context : Context}
    (h : operation.verified world context = .ok ()) :
    (operation.traversed cores check).Follows (operation.spelled cores) allowed context := by
  cases operation with
  | step single => exact fun state hstate => ⟨state, hstate, Handing.outcome_changing _ _ _⟩
  | pipeline locals remotes transport =>
    obtain ⟨hlocals, hremotes⟩ := Operation.verified_pipeline_eq_ok_iff.1 h
    rw [Operation.traversed, Operation.spelled,
      ← pure_bind () fun _ : Unit => Operation.spelledAll cores locals >>= _]
    refine (hcheck h).bind fun _ kept hkept => ?_
    obtain rfl : context = kept := congrArg Prod.snd hkept
    refine (Operation.traversedAll_of_verified hcheck cores locals hlocals).bind
      fun localCommands between hspelled => ?_
    cases transport with
    | none => exact fun half hhalf => ⟨half, hhalf, rfl⟩
    | some transport =>
      -- the remote half is verified in the context that the local half leaves
      obtain ⟨_, hfragments, _⟩ := (Operation.spelledAll_eq_ok_iff cores locals).1 hspelled
      have hsame : between.folders = context.folders := by
        rw [(Step.of_fragments hfragments).2]
        rfl
      rw [← Operation.verifiedAll_congr world hsame] at hremotes
      exact (Operation.traversedAll_of_verified hcheck cores remotes hremotes).bind
        fun _ _ _ later hlater => ⟨later, hlater, rfl⟩

theorem Operation.traversedAll_of_verified {τ : Type} {check : Operation.Check τ}
    {allowed : τ → Prop}
    (hcheck : ∀ {operation context}, operation.verified world context = .ok () →
      (Handing.ofActivity (check operation)).Follows (pure ()) allowed context)
    (cores : Nat) (operations : List Operation) {context : Context}
    (h : Operation.verifiedAll world context operations = .ok ()) :
    (Operation.traversedAll cores check operations).Follows
      (Operation.spelledAll cores operations) allowed context := by
  cases operations with
  | nil => exact fun state hstate => ⟨state, hstate, rfl⟩
  | cons operation rest =>
    obtain ⟨hhead, htail⟩ := Operation.verifiedAll_cons_eq_ok_iff.1 h
    rw [Operation.traversedAll, Operation.spelledAll]
    refine (Operation.traversed_of_verified hcheck cores operation hhead).bind
      fun command between hspelled => ?_
    obtain ⟨_, hfragments, _⟩ := (Operation.spelled_eq_ok_iff cores operation).1 hspelled
    have hsame : between.folders = context.folders := by
      rw [(Step.of_fragments hfragments).2]
      rfl
    rw [← Operation.verifiedAll_congr world hsame] at htail
    exact (Operation.traversedAll_of_verified hcheck cores rest htail).bind
      fun _ _ _ later hlater => ⟨later, hlater, rfl⟩

end

/-- What verifies in the world verifies whenever it is looked at. -/
theorem Operation.verifying_of_still (still : around.HoldStill world among)
    {operation : Operation} {context : Context} (h : operation.verified world context = .ok ()) :
    (Handing.ofActivity (Operation.verifying around operation)).Follows (pure ()) among
      context := by
  intro state hstate
  obtain ⟨later, hlater, hverify⟩ := Operation.verify_of_still still context operation hstate
  refine ⟨later, hlater, ?_⟩
  rw [Handing.outcome_ofActivity, Operation.verifying, hverify, h]
  rfl

/-- **Verified once, an operation is verified for good**: in surroundings that hold still, what
building its command comes to is what spelling it comes to. -/
theorem Operation.forward_of_verified (still : around.HoldStill world among)
    (operation : Operation) {context : Context}
    (h : operation.verified world context = .ok ()) :
    (operation.forward around).Follows (operation.spelled around.cores) among context := by
  rw [Operation.forward_eq_traversed]
  exact Operation.traversed_of_verified (Operation.verifying_of_still still) around.cores
    operation h

end Still

end FolderBackup
