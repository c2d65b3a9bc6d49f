import Stepwise.Proofs.Run.Attempt
/-!
What evaluating a step leaves as it was. Whatever the host answers, one entry is added to the
history and nothing else of the state is touched but the variables; of these a step that fails
changes none, and one that succeeds none but those that it is declared to define.
-/

namespace Stepwise

/-- One table has become another by changes at some keys alone, and no key has been lost. -/
structure Table.ChangedAt (keys : List String) (before after : Table α) : Prop where
  elsewhere : ∀ key, key ∉ keys → after.get? key = before.get? key
  kept : ∀ key, before.contains key = true → after.contains key = true

theorem Table.changedAt_of_latest {before after : Table α} {tells : String → Write → Option α}
    {writes : List Write} {keys : List String}
    (told : ∀ key, after.get? key = (Write.latest (tells key) writes).or (before.get? key))
    (own : ∀ w ∈ writes, ∀ key, key ≠ w.name → tells key w = none)
    (within : ∀ w ∈ writes, w.name ∈ keys) : Table.ChangedAt keys before after where
  elsewhere key outside := by
    have silent : Write.latest (tells key) writes = none := by
      refine List.findSome?_eq_none_iff.2 fun w member => ?_
      have written := List.mem_reverse.1 member
      exact own w written key fun same => outside (same ▸ within w written)
    rw [told, silent, Option.none_or]
  kept key held := by
    rw [Table.contains] at held ⊢
    rw [told, Option.isSome_or, held, Bool.or_true]

structure Variables.ChangedAt (names : List String) (before after : Variables) : Prop where
  frame : Table.ChangedAt names before.frame after.frame
  memory : Table.ChangedAt names before.memory after.memory
  toolOutputs : Table.ChangedAt names before.toolOutputs after.toolOutputs

theorem Variables.changedAt_writeAll (v : Variables) {writes : List Write} {names : List String}
    (within : ∀ w ∈ writes, w.name ∈ names) : v.ChangedAt names (v.writeAll writes) where
  frame := Table.changedAt_of_latest (v.frame_writeAll writes)
    (fun _ _ _ other => (Write.tells_own other).1) within
  memory := Table.changedAt_of_latest (v.memory_writeAll writes)
    (fun _ _ _ other => (Write.tells_own other).2.1) within
  toolOutputs := Table.changedAt_of_latest (v.toolOutputs_writeAll writes)
    (fun _ _ _ other => (Write.tells_own other).2.2) within

/-- How evaluating a step takes one state to another, with what it reports and why it fails, if it
does. -/
structure Step.Confined (s : Step) (cause : Option StepError) (before after : RunState)
    (r : StepResult) : Prop where
  recorded : ∃ e, after.history = before.history ++ [e] ∧ e.stepId = s.id ∧
    e.stepType = s.kind.typeName ∧ e.success = r.success
  status : after.status = before.status
  current : after.current = before.current
  breakpoints : after.breakpoints = before.breakpoints
  failure : after.failure = before.failure
  stepsExecuted : after.stepsExecuted = before.stepsExecuted
  reports : r.Reports cause
  error : r.error.isSome = true ↔ r.success = false
  errorKind : r.errorKind.isSome = true ↔ r.success = false
  failed : r.success = false → after.vars = before.vars
  succeeded : r.success = true → before.vars.ChangedAt s.definedVariables after.vars

theorem StepResult.Reports.told {r : StepResult} {cause : Option StepError}
    (reports : r.Reports cause) :
    (r.error.isSome = true ↔ r.success = false) ∧
      (r.errorKind.isSome = true ↔ r.success = false) := by
  rw [reports.success, reports.error, reports.errorKind]
  cases cause with
  | none => simp
  | some cause => simp

theorem evaluation_confined {σ : Type} (h : Host σ) (options : Options) (before : RunState)
    (s : Step) (world : σ) :
    s.Confined (s.failure? options before.vars h world) before
      (before.evaluate h options s world).1.2 (before.evaluate h options s world).1.1 := by
  have reports := s.plan_reports options before.vars h world
  have outcome := Eq.refl ((s.plan options before.vars).run h world)
  have fits := (plan_fits s options before.vars).outcome outcome
  have accounted := (s.plan_tells options before.vars).outcome outcome
  refine ⟨⟨_, rfl, fits.stepId, fits.stepType, rfl⟩, rfl, rfl, rfl, rfl, rfl, reports,
    reports.told.1, reports.told.2, fun failure => (fits.failed failure).1, fun _ => ?_⟩
  have vars : (before.evaluate h options s world).1.2.vars = before.vars.writeAll _ :=
    accounted.vars
  rw [vars]
  exact before.vars.changedAt_writeAll fun w written => (Step.writes_defined written).1

end Stepwise
