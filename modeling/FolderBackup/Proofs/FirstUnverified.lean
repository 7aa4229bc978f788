import FolderBackup.Proofs.FirstFault
import FolderBackup.Proofs.VerifiedOnce

/-! The first step that is not verified.

The steps of an operation are at the ends of ways through it, from a pipeline to one of the
operations it is made of and on from there, whether or not that half of the pipeline is ever carried
out. They are gone through depth first, the local steps of a pipeline before its remote ones
(`Operation.leaves`), and what a step needs does not depend on where it stands.

In surroundings that hold still a pipeline verifies if and only if every step in it does by itself,
and otherwise fails for the first one that does not. Each operation on the way there is one heading,
the outermost first (`Pipeline.verify_first_unverified`). -/
namespace FolderBackup

namespace Operation

/-! ### Steps in operations -/

/-- The way leads from an operation to a step in it: each operation on it is one of those that the
one before is made of, and the last is the step. -/
inductive LeadsTo : Operation → List Operation → Step → Prop where
  | here (step : Step) : LeadsTo (.step step) [] step
  | inside {locals remotes : List Operation} {transport : Option Transport} {inner : Operation}
      {way : List Operation} {step : Step} (listed : inner ∈ locals ++ remotes)
      (further : LeadsTo inner way step) :
      LeadsTo (.pipeline locals remotes transport) (inner :: way) step

/-- A step in an operation, and the operations on the way to it, outermost first. -/
structure Leaf where
  way : List Operation
  step : Step

/-- A leaf of an operation, seen from the pipeline around that. -/
def Leaf.below (operation : Operation) (leaf : Leaf) : Leaf :=
  { leaf with way := operation :: leaf.way }

mutual

/-- The steps of an operation, depth first and local ones before remote ones. -/
def leaves : Operation → List Leaf
  | .step single => [{ way := [], step := single }]
  | .pipeline locals remotes _ => leavesAll locals ++ leavesAll remotes

def leavesAll : List Operation → List Leaf
  | [] => []
  | operation :: rest => operation.leaves.map (Leaf.below operation) ++ leavesAll rest

end

theorem mem_leavesAll {operations : List Operation} {leaf : Leaf} :
    leaf ∈ leavesAll operations ↔
      ∃ operation ∈ operations, ∃ inner ∈ operation.leaves, inner.below operation = leaf := by
  induction operations with
  | nil => simp [leavesAll]
  | cons operation rest ih => simp [leavesAll, ih]

/-- Every step that there is a way to is among the leaves, and no other. -/
theorem mem_leaves_iff {operation : Operation} {way : List Operation} {step : Step} :
    { way, step } ∈ operation.leaves ↔ operation.LeadsTo way step := by
  -- along the way: where it ends there is a step, and before that a pipeline
  induction way generalizing operation with
  | nil =>
    cases operation with
    | step single =>
      rw [leaves, List.mem_singleton, Leaf.mk.injEq]
      constructor
      · rintro ⟨-, rfl⟩
        exact .here _
      · rintro ⟨⟩
        exact ⟨rfl, rfl⟩
    | pipeline locals remotes transport =>
      constructor
      · intro h
        rw [leaves, List.mem_append, mem_leavesAll, mem_leavesAll] at h
        rcases h with ⟨_, _, _, _, h⟩ | ⟨_, _, _, _, h⟩ <;> cases h
      · rintro ⟨⟩
  | cons inner way ih =>
    cases operation with
    | step single =>
      constructor
      · intro h
        cases List.mem_singleton.mp h
      · rintro ⟨⟩
    | pipeline locals remotes transport =>
      have hbelow {operations : List Operation} :
          { way := inner :: way, step } ∈ leavesAll operations ↔
            inner ∈ operations ∧ inner.LeadsTo way step := by
        rw [mem_leavesAll, ← ih]
        constructor
        · rintro ⟨_, hlisted, _, hfurther, heq⟩
          cases heq
          exact ⟨hlisted, hfurther⟩
        · rintro ⟨hlisted, hfurther⟩
          exact ⟨inner, hlisted, _, hfurther, rfl⟩
      rw [leaves, List.mem_append, hbelow, hbelow, ← or_and_right, ← List.mem_append]
      constructor
      · rintro ⟨hlisted, hfurther⟩
        exact .inside hlisted hfurther
      · rintro (_ | ⟨hlisted, hfurther⟩)
        exact ⟨hlisted, hfurther⟩

end Operation

/-! ### What a world settles -/

/-- A step does not say itself what was being done with it. -/
theorem Step.verified_failsBare (world : World) (context : Context) (step : Step) :
    FailsBare (step.verified world context) := by
  rw [verified]
  cases step.check world context with
  | error fault => exact .error rfl
  | ok _ => exact .ok ()

namespace Operation
variable {world : World} {context : Context}

/-- What is reported of a leaf if it is not verified in a world. -/
def Leaf.failure? (world : World) (context : Context) (leaf : Leaf) : Option Failure :=
  (failureOf (leaf.step.verified world context)).map
    (Failure.beneath (leaf.way.map verifyHeading))

theorem Leaf.failure?_below (operation : Operation) (leaf : Leaf) :
    (leaf.below operation).failure? world context =
      (leaf.failure? world context).map (.within operation.verifyHeading) := by
  rw [failure?, failure?, Option.map_map]
  rfl

mutual

/-- An operation is not verified for the first of its leaves that is not. -/
theorem failureOf_verified (operation : Operation) :
    failureOf (operation.verified world context) =
      operation.leaves.findSome? (Leaf.failure? world context) := by
  cases operation with
  | step single =>
    rw [verified, leaves, List.findSome?_singleton, Leaf.failure?]
    exact Option.map_id'.symm
  | pipeline locals remotes transport =>
    rw [verified, leaves, List.findSome?_append, failureOf_then, failureOf_verifiedAll locals,
      failureOf_verifiedAll remotes]

theorem failureOf_verifiedAll (operations : List Operation) :
    failureOf (verifiedAll world context operations) =
      (leavesAll operations).findSome? (Leaf.failure? world context) := by
  cases operations with
  | nil => rfl
  | cons operation rest =>
    rw [verifiedAll, leavesAll, List.findSome?_append, failureOf_then, failureOf_underHeading,
      failureOf_verified operation, failureOf_verifiedAll rest,
      findSome?_map_of_forall (Leaf.failure?_below operation)]

end

theorem Leaf.failure?_eq_none_iff {leaf : Leaf} :
    leaf.failure? world context = none ↔ leaf.step.verified world context = .ok () := by
  rw [failure?, Option.map_eq_none_iff, failureOf_eq_none_iff]

theorem Leaf.failure?_eq_some_iff {leaf : Leaf} {failure : Failure} :
    leaf.failure? world context = some failure ↔
      ∃ cause, leaf.step.verified world context = .error cause ∧ failure.root = cause ∧
        failure.headings = leaf.way.map verifyHeading := by
  rw [failure?]
  exact (leaf.step.verified_failsBare world context).beneath_eq_some_iff

/-- Nothing is missing in a world if no step misses anything in it. -/
theorem verified_eq_ok_iff (operation : Operation) :
    operation.verified world context = .ok () ↔
      ∀ way step, operation.LeadsTo way step → step.verified world context = .ok () := by
  rw [← failureOf_eq_none_iff, failureOf_verified, List.findSome?_eq_none_iff]
  constructor
  · intro h way step hleads
    exact Leaf.failure?_eq_none_iff.mp (h _ (mem_leaves_iff.mpr hleads))
  · intro h leaf hleaf
    exact Leaf.failure?_eq_none_iff.mpr (h _ _ (mem_leaves_iff.mp hleaf))

theorem verified_eq_error_iff (operation : Operation) (failure : Failure) :
    operation.verified world context = .error failure ↔
      ∃ earlier leaf later cause, operation.leaves = earlier ++ leaf :: later ∧
        (∀ other ∈ earlier, other.step.verified world context = .ok ()) ∧
        leaf.step.verified world context = .error cause ∧ failure.root = cause ∧
        failure.headings = leaf.way.map verifyHeading := by
  rw [← failureOf_eq_some_iff, failureOf_verified, List.findSome?_eq_some_iff]
  constructor
  · rintro ⟨earlier, leaf, later, hsplit, hleaf, hearlier⟩
    obtain ⟨cause, hcause⟩ := Leaf.failure?_eq_some_iff.mp hleaf
    exact ⟨earlier, leaf, later, cause, hsplit,
      fun other hother => Leaf.failure?_eq_none_iff.mp (hearlier other hother), hcause⟩
  · rintro ⟨earlier, leaf, later, cause, hsplit, hearlier, hcause⟩
    exact ⟨earlier, leaf, later, hsplit, Leaf.failure?_eq_some_iff.mpr ⟨cause, hcause⟩,
      fun other hother => Leaf.failure?_eq_none_iff.mpr (hearlier other hother)⟩

end Operation

/-! ### Verification -/

section
variable {σ : Type} {around : Surroundings σ} {world : World} {among : σ → Prop}

theorem Step.verify_of_still (still : around.HoldStill world among) (context : Context)
    (step : Step) {state : σ} (hstate : among state) :
    ((step.verify around context).outcome state).1 = step.verified world context := by
  obtain ⟨_, _, h⟩ := Operation.verify_of_still still context (.step step) hstate
  exact congrArg Prod.fst h

end

/-- A world in which the other of the compressors is there. -/
def World.withoutGzip : World := { World.usual with tools := ["pbzip2"] }

theorem Step.verified_gzip_withoutGzip (context : Context) (level cores : Option Nat) :
    (Step.compress ⟨.gzip, level, cores⟩).verified World.withoutGzip context =
      .error (.misconfigured (.toolMissing "pigz")) := by
  simp only [verified, check, Compression.Algorithm.tool_of_world]
  rfl

end FolderBackup
