import FolderBackup.Event
import FolderBackup.Shell.Run
import FolderBackup.Timestamp

/-! What jobs run in.

Everything that a run asks of its surroundings goes through `Surroundings`: it looks at the
world, asks for the time, tells events and runs scripts, and each of these may change the
state behind it. So nothing is assumed about how the world changes between two looks. In
still surroundings every look shows the same world.

An `Activity` acts on the state and may fail. A `Handing` activity also hands something on,
such as the context from one step of a pipeline to the next. -/
namespace FolderBackup

/-- Surroundings whose state is an element of `σ`. -/
structure Surroundings (σ : Type) where
  /-- The number of processor cores. -/
  cores : Nat
  /-- The world as it is now. -/
  look : σ → World × σ
  now : σ → Timestamp × σ
  tell : Event → σ → σ
  /-- Runs a script; gives its status and what it complained about. -/
  run : String → σ → (ExitStatus × String) × σ

/-- Something done in surroundings, which may fail. The state is kept if it does. -/
abbrev Activity (σ : Type) := ExceptT Failure (StateM σ)

namespace Surroundings
variable {σ : Type}

/-- Every look shows this world. -/
def IsStill (around : Surroundings σ) (world : World) : Prop :=
  ∀ state, (around.look state).1 = world

/-- The surroundings with something kept beside their state. -/
def beside (around : Surroundings σ) (κ : Type) : Surroundings (σ × κ) where
  cores := around.cores
  look := fun (state, kept) => let (world, state) := around.look state; (world, (state, kept))
  now := fun (state, kept) => let (time, state) := around.now state; (time, (state, kept))
  tell event := fun (state, kept) => (around.tell event state, kept)
  run script := fun (state, kept) =>
    let (result, state) := around.run script state
    (result, (state, kept))

/-- Events told in order. -/
def tellAll (around : Surroundings σ) (events : List Event) (state : σ) : σ :=
  events.foldl (fun state event => around.tell event state) state

end Surroundings

namespace Activity
variable {σ α : Type}

/-- What an activity comes to, and the state after it. -/
def outcome (activity : Activity σ α) (state : σ) : Except Failure α × σ :=
  activity.run.run state

/-- Any failure is put under the heading. -/
def under (heading : Heading) (activity : Activity σ α) : Activity σ α :=
  ExceptT.mk (underHeading heading <$> activity.run)

/-- What does not depend on the surroundings. -/
def settled (result : Except Failure α) : Activity σ α :=
  ExceptT.mk (pure result)

/-- A change of the state alone. -/
def change (f : σ → σ) : Activity σ Unit :=
  ExceptT.lift (modify f)

/-- An answer from the surroundings. -/
def ask {β : Type} (f : σ → β × σ) : Activity σ β :=
  ExceptT.lift (fun state => pure (f state))

end Activity

/-- An activity that hands something on from each part to the next, also if one fails. -/
abbrev Handing (κ σ : Type) := ExceptT Failure (StateT κ (StateM σ))

namespace Handing
variable {κ σ α : Type}

/-- What an activity comes to, with what it hands on and the state after it. -/
def outcome (handing : Handing κ σ α) (held : κ) (state : σ) : Except Failure α × κ × σ :=
  let ((result, held), state) := (handing.run.run held).run state
  (result, held, state)

/-- An activity that leaves what is handed on as it is. -/
def ofActivity (activity : κ → Activity σ α) : Handing κ σ α :=
  ExceptT.mk fun held => do
    let result ← (activity held).run
    pure (result, held)

/-- What depends on what is handed on alone. -/
def reading (f : κ → Except Failure α) : Handing κ σ α :=
  ExceptT.mk fun held => pure (f held, held)

/-- A change of what is handed on; if it fails nothing is changed. -/
def changing (f : κ → Except Failure (α × κ)) : Handing κ σ α :=
  ExceptT.mk fun held => pure <| match f held with
    | .ok (value, after) => (.ok value, after)
    | .error failure => (.error failure, held)

/-- The activity from something handed to it; what it hands on in the end is dropped. -/
def startingWith (handing : Handing κ σ α) (held : κ) : Activity σ α :=
  ExceptT.mk (Prod.fst <$> handing.run.run held)

end Handing

end FolderBackup
