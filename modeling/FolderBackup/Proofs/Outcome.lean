import FolderBackup.Surroundings

/-! What activities come to.

An activity is known by its outcome in every state, and an activity that hands something on by
its outcome for everything held. The outcome of a sequence follows from the outcomes of its
parts: the second part takes place only if the first succeeds.

An activity that hands something on may come to the same as a plain activity on what is handed
on, whatever the state is as long as it is one of some states and remains one (`Follows`). Then
the state plays no part in what it comes to. Two such sequences are compared part by part. -/
namespace FolderBackup

/-- A sequence of results is good if and only if both parts are. -/
theorem bind_eq_ok_iff {ε α β : Type} {result : Except ε α}
    {next : α → Except ε β} {value : β} :
    (result >>= next) = .ok value ↔ ∃ first, result = .ok first ∧ next first = .ok value := by
  cases result <;> simp [bind, Except.bind]

/-- What is made of a result is good if and only if the result is. -/
theorem map_eq_ok_iff {ε α β : Type} {result : Except ε α} {make : α → β} {value : β} :
    make <$> result = .ok value ↔ ∃ first, result = .ok first ∧ make first = value := by
  cases result <;> simp [Functor.map, Except.map]

theorem underHeading_eq_ok_iff {α : Type} {heading : Heading} {result : Except Failure α}
    {value : α} : underHeading heading result = .ok value ↔ result = .ok value := by
  cases result <;> simp [underHeading]

/-- A result that has a value is that value. -/
theorem eq_ok_of_toOption {ε α : Type} {result : Except ε α} {value : α}
    (h : result.toOption = some value) : result = .ok value := by
  cases result with
  | error failure => exact absurd h (by simp [Except.toOption])
  | ok found =>
    injection h with hfound
    rw [hfound]

namespace Activity
variable {σ α β : Type}

/-- Activities that come to the same in every state are the same. -/
theorem ext {activity other : Activity σ α}
    (h : ∀ state, activity.outcome state = other.outcome state) : activity = other :=
  funext h

@[simp] theorem outcome_pure (value : α) (state : σ) :
    (pure value : Activity σ α).outcome state = (.ok value, state) := rfl

theorem outcome_bind (activity : Activity σ α) (next : α → Activity σ β) (state : σ) :
    (activity >>= next).outcome state = match activity.outcome state with
      | (.ok value, after) => (next value).outcome after
      | (.error failure, after) => (.error failure, after) := by
  unfold outcome
  simp only [ExceptT.run_bind, StateT.run_bind]
  rcases activity.run.run state with ⟨_ | _, _⟩ <;> rfl

theorem outcome_bind_ok {activity : Activity σ α} {value : α} {state after : σ}
    (h : activity.outcome state = (.ok value, after)) (next : α → Activity σ β) :
    (activity >>= next).outcome state = (next value).outcome after := by
  rw [outcome_bind, h]

theorem outcome_bind_error {activity : Activity σ α} {failure : Failure} {state after : σ}
    (h : activity.outcome state = (.error failure, after)) (next : α → Activity σ β) :
    (activity >>= next).outcome state = (.error failure, after) := by
  rw [outcome_bind, h]

/-- A sequence succeeds if and only if both parts do. -/
theorem outcome_bind_eq_ok_iff {activity : Activity σ α} {next : α → Activity σ β} {result : β}
    {state last : σ} : (activity >>= next).outcome state = (.ok result, last) ↔
      ∃ value after, activity.outcome state = (.ok value, after) ∧
        (next value).outcome after = (.ok result, last) := by
  constructor
  · intro h
    rw [outcome_bind] at h
    rcases hfirst : activity.outcome state with ⟨_ | value, after⟩
    · rw [hfirst] at h
      simp at h
    · rw [hfirst] at h
      exact ⟨value, after, rfl, h⟩
  · rintro ⟨value, after, hfirst, hnext⟩
    rw [outcome_bind_ok hfirst, hnext]

@[simp] theorem outcome_under (heading : Heading) (activity : Activity σ α) (state : σ) :
    (activity.under heading).outcome state =
      (underHeading heading (activity.outcome state).1, (activity.outcome state).2) := rfl

@[simp] theorem outcome_settled (result : Except Failure α) (state : σ) :
    (settled result).outcome state = (result, state) := rfl

@[simp] theorem outcome_change (f : σ → σ) (state : σ) :
    (change f).outcome state = (.ok (), f state) := rfl

@[simp] theorem outcome_ask (f : σ → α × σ) (state : σ) :
    (ask f).outcome state = (.ok (f state).1, (f state).2) := rfl

@[simp] theorem outcome_lift (action : StateM σ α) (state : σ) :
    outcome (ExceptT.lift action) state = (.ok (action.run state).1, (action.run state).2) := rfl

/-- What depends on the state alone. -/
def reading (f : σ → Except Failure α) : Activity σ α :=
  ExceptT.mk fun state => pure (f state, state)

/-- A change of the state; if it fails nothing is changed. -/
def changing (f : σ → Except Failure (α × σ)) : Activity σ α :=
  ExceptT.mk fun state => pure <| match f state with
    | .ok (value, after) => (.ok value, after)
    | .error failure => (.error failure, state)

@[simp] theorem outcome_reading (f : σ → Except Failure α) (state : σ) :
    (reading f).outcome state = (f state, state) := rfl

theorem outcome_changing (f : σ → Except Failure (α × σ)) (state : σ) :
    (changing f).outcome state = match f state with
      | .ok (value, after) => (.ok value, after)
      | .error failure => (.error failure, state) := rfl

theorem outcome_changing_eq_ok_iff {f : σ → Except Failure (α × σ)} {state after : σ} {value : α} :
    (changing f).outcome state = (.ok value, after) ↔ f state = .ok (value, after) := by
  rw [outcome_changing]
  cases f state <;> simp [Prod.ext_iff]

end Activity

namespace Handing
variable {κ σ α β : Type}

/-- Activities that come to the same in every state, whatever is held, are the same. -/
theorem ext {handing other : Handing κ σ α}
    (h : ∀ held state, handing.outcome held state = other.outcome held state) :
    handing = other := by
  apply funext
  intro held
  apply funext
  intro state
  have hresult := congrArg Prod.fst (h held state)
  have hheld := congrArg (fun outcome => outcome.2.1) (h held state)
  have hstate := congrArg (fun outcome => outcome.2.2) (h held state)
  exact Prod.ext (Prod.ext hresult hheld) hstate

@[simp] theorem outcome_pure (value : α) (held : κ) (state : σ) :
    (pure value : Handing κ σ α).outcome held state = (.ok value, held, state) := rfl

theorem outcome_bind (handing : Handing κ σ α) (next : α → Handing κ σ β) (held : κ)
    (state : σ) :
    (handing >>= next).outcome held state = match handing.outcome held state with
      | (.ok value, held, after) => (next value).outcome held after
      | (.error failure, held, after) => (.error failure, held, after) := by
  unfold outcome
  simp only [ExceptT.run_bind, StateT.run_bind]
  rcases (handing.run.run held).run state with ⟨⟨_ | _, _⟩, _⟩ <;> rfl

theorem outcome_bind_ok {handing : Handing κ σ α} {value : α} {held kept : κ} {state after : σ}
    (h : handing.outcome held state = (.ok value, kept, after)) (next : α → Handing κ σ β) :
    (handing >>= next).outcome held state = (next value).outcome kept after := by
  rw [outcome_bind, h]

theorem outcome_bind_error {handing : Handing κ σ α} {failure : Failure} {held kept : κ}
    {state after : σ} (h : handing.outcome held state = (.error failure, kept, after))
    (next : α → Handing κ σ β) :
    (handing >>= next).outcome held state = (.error failure, kept, after) := by
  rw [outcome_bind, h]

/-- A sequence succeeds only if both parts do. -/
theorem outcome_bind_eq_ok {handing : Handing κ σ α} {next : α → Handing κ σ β} {result : β}
    {held final : κ} {state last : σ}
    (h : (handing >>= next).outcome held state = (.ok result, final, last)) :
    ∃ value kept after, handing.outcome held state = (.ok value, kept, after) ∧
      (next value).outcome kept after = (.ok result, final, last) := by
  rw [outcome_bind] at h
  rcases hfirst : handing.outcome held state with ⟨_ | value, kept, after⟩
  · rw [hfirst] at h
    simp at h
  · rw [hfirst] at h
    exact ⟨value, kept, after, rfl, h⟩

@[simp] theorem outcome_ofActivity (activity : κ → Activity σ α) (held : κ) (state : σ) :
    (ofActivity activity).outcome held state =
      (((activity held).outcome state).1, held, ((activity held).outcome state).2) := rfl

@[simp] theorem outcome_reading (f : κ → Except Failure α) (held : κ) (state : σ) :
    (reading f).outcome held state = (f held, held, state) := rfl

/-- A change of what is held is a change of a state. -/
theorem outcome_changing (f : κ → Except Failure (α × κ)) (held : κ) (state : σ) :
    (changing f).outcome held state =
      (((Activity.changing f).outcome held).1, ((Activity.changing f).outcome held).2, state) :=
  rfl

@[simp] theorem outcome_get (held : κ) (state : σ) :
    (get : Handing κ σ κ).outcome held state = (.ok held, held, state) := rfl

@[simp] theorem outcome_set (kept held : κ) (state : σ) :
    (set kept : Handing κ σ PUnit).outcome held state = (.ok ⟨⟩, kept, state) := rfl

@[simp] theorem outcome_startingWith (handing : Handing κ σ α) (held : κ) (state : σ) :
    (handing.startingWith held).outcome state =
      ((handing.outcome held state).1, (handing.outcome held state).2.2) := rfl

theorem outcome_startingWith_eq_ok_iff {handing : Handing κ σ α} {held : κ} {value : α}
    {state after : σ} : (handing.startingWith held).outcome state = (.ok value, after) ↔
      ∃ kept, handing.outcome held state = (.ok value, kept, after) := by
  rw [outcome_startingWith]
  rcases handing.outcome held state with ⟨result, kept, last⟩
  simp

/-- From what is held, and in any of some states, the activity comes to what a plain activity
on what is held comes to, and it leaves one of these states. -/
def Follows (handing : Handing κ σ α) (activity : Activity κ α) (among : σ → Prop)
    (held : κ) : Prop :=
  ∀ state, among state → ∃ later, among later ∧
    handing.outcome held state = ((activity.outcome held).1, (activity.outcome held).2, later)

theorem Follows.bind {handing : Handing κ σ α} {activity : Activity κ α} {among : σ → Prop}
    {held : κ} {next : α → Handing κ σ β} {after : α → Activity κ β}
    (h : handing.Follows activity among held)
    (hnext : ∀ value kept, activity.outcome held = (.ok value, kept) →
      (next value).Follows (after value) among kept) :
    (handing >>= next).Follows (activity >>= after) among held := by
  intro state hstate
  obtain ⟨half, hhalf, hfirst⟩ := h state hstate
  rcases houtcome : activity.outcome held with ⟨failure | value, kept⟩
  · rw [houtcome] at hfirst
    refine ⟨half, hhalf, ?_⟩
    rw [outcome_bind_error hfirst, Activity.outcome_bind_error houtcome]
  · rw [houtcome] at hfirst
    rw [outcome_bind_ok hfirst, Activity.outcome_bind_ok houtcome]
    exact hnext value kept houtcome half hhalf

end Handing

end FolderBackup
