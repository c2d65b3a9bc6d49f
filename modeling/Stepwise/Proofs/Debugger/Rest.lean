import Stepwise.Proofs.Table
import Stepwise.Proofs.Program.Places
import Stepwise.Proofs.Program.WellFormed
import Stepwise.Proofs.Debugger.Operation
/-!
How a run of a valid program stands between operations. The cursor is always the place of the next
step of the walk, so the step under it is found; whether there is a cursor and whether there is a
failure are told by the status alone; and no failure is that of a faulty program.
-/

namespace Stepwise

namespace Program

theorem findStep?_declared {p : Program} {id : String} (found : (p.findStep? id).isSome) :
    ∃ q ∈ p.procedures, ∃ s ∈ q.steps, s.id = id := by
  obtain ⟨⟨q, s⟩, found⟩ := Option.isSome_iff_exists.1 found
  obtain ⟨r, declared, inside⟩ := List.exists_of_findSome?_eq_some found
  obtain ⟨t, step, -⟩ := Option.map_eq_some_iff.1 inside
  exact ⟨r, declared, t, List.mem_of_find?_eq_some step, by simpa using List.find?_some step⟩

theorem walk_declared {p : Program} {s : Step} (member : s ∈ p.walk) : s ∈ p.declaredSteps := by
  obtain ⟨q, slot, step⟩ := List.mem_flatMap.1 member
  exact List.mem_flatMap.2 ⟨q, slots_declared slot, step⟩

end Program

theorem StepError.CanStop.sound {s : Step} {cause : StepError} (canStop : cause.CanStop s)
    (complete : s.Complete) : cause.IsSound := by
  cases cause with
  | riskBlocked _ | aborted _ | exited _ _ => trivial
  | noOptions =>
    have none : s.kind = .choice [] := canStop
    simp only [Step.Complete, none] at complete
    exact complete.1 rfl
  | stepLimit _ | unknownStep _ => exact canStop.elim

namespace Debugger

/-- How a run of a program stands whenever no operation is under way. -/
structure AtRest (p : Program) (maxSteps : Nat) (d : Debugger) : Prop where
  program : d.program = p
  limit : d.maxSteps = maxSteps
  notRunning : d.state.status ≠ .running
  current : d.state.current = (Cursor.places p)[d.state.stepsExecuted]?
  completed : d.state.current = none ↔ d.state.status = .completed
  failed : d.state.failure.isSome = true ↔ d.state.status = .error
  failurePlace : ∀ f, d.state.failure = some f → ∃ c, d.state.current = some c ∧ f.stepId = c.stepId
  failureCause : ∀ f, d.state.failure = some f →
    ∃ cause : StepError, cause.IsSound ∧ f.kind = cause.kind ∧ f.error = cause.message
  entryCause : ∀ entry ∈ d.state.history, ∀ error, entry.error = some error →
    ∃ cause : StepError, cause.IsSound ∧ error = cause.message
  bounded : d.state.stepsExecuted ≤ maxSteps
  breakpoints : ∀ id, Table.contains d.state.breakpoints id = true → (p.findStep? id).isSome

namespace AtRest

variable {σ : Type} {h : Host σ} {p : Program} {maxSteps : Nat} {d : Debugger}

theorem start (valid : p.WellFormed) (analysis : Option Analysis) (options : Options) :
    AtRest p maxSteps (.start p analysis options maxSteps) where
  program := rfl
  limit := rfl
  notRunning := by simp [Debugger.start, RunState.initial]
  current := Cursor.first_eq_place p
  completed := by
    have nonempty : (Cursor.places p) ≠ [] := fun none => valid.hasStep (List.length_eq_zero_iff.1
      (by rw [← Cursor.length_places, none]; rfl))
    simp [Debugger.start, RunState.initial, Cursor.first_eq_place, nonempty]
  failed := by simp [Debugger.start, RunState.initial]
  failurePlace := by simp [Debugger.start, RunState.initial]
  failureCause := by simp [Debugger.start, RunState.initial]
  entryCause := by simp [Debugger.start, RunState.initial]
  bounded := Nat.zero_le _
  breakpoints := by
    intro id set
    simp [Debugger.start, RunState.initial, Table.contains, EmptyCollection.emptyCollection] at set

theorem noFailure (rest : AtRest p maxSteps d) (live : d.state.status.isFinal = false) :
    d.state.failure = none := by
  cases failure : d.state.failure with
  | none => rfl
  | some f =>
    have status := rest.failed.1 (by simp [failure])
    simp [status, Status.isFinal] at live

theorem step_found (rest : AtRest p maxSteps d) (valid : p.WellFormed) {c : Cursor}
    (current : d.state.current = some c) :
    ∃ s, c.step? p = some s ∧ p.walk[d.state.stepsExecuted]? = some s := by
  have place := rest.current.symm.trans current
  obtain ⟨s, onWalk, -⟩ := Cursor.place_walk place
  exact ⟨s, (Cursor.place_step valid.procedureIds.distinct place).trans onWalk, onWalk⟩

theorem step_known (rest : AtRest p maxSteps d) (valid : p.WellFormed) {c : Cursor}
    (current : d.state.current = some c) : c.step? d.program ≠ none := by
  obtain ⟨s, found, -⟩ := rest.step_found valid current
  rw [rest.program, found]
  simp

theorem live_cursor (rest : AtRest p maxSteps d) (live : d.state.status.isFinal = false) :
    d.state.current ≠ none := by
  intro current
  simp [rest.completed.1 current, Status.isFinal] at live

theorem fail (rest : AtRest p maxSteps d) {c : Cursor} (current : d.state.current = some c)
    {cause : StepError} (sound : cause.IsSound) (time : Timestamp) :
    AtRest p maxSteps (d.fail c.stepId cause time) where
  program := rest.program
  limit := rest.limit
  notRunning := by simp [Debugger.fail, RunState.fail]
  current := rest.current
  completed := by simp [Debugger.fail, RunState.fail, current]
  failed := by simp [Debugger.fail, RunState.fail]
  failurePlace f failure := by
    obtain rfl := Option.some.inj failure
    exact ⟨c, current, rfl⟩
  failureCause f failure := by
    obtain rfl := Option.some.inj failure
    exact ⟨cause, sound, rfl, rfl⟩
  entryCause := rest.entryCause
  bounded := rest.bounded
  breakpoints := rest.breakpoints

theorem entryCause_evaluated (rest : AtRest p maxSteps d) {e : Evaluated} (span : Span)
    (sound : ∀ error, e.result.error = some error →
      ∃ cause : StepError, cause.IsSound ∧ error = cause.message) :
    ∀ entry ∈ (d.evaluated e span).state.history, ∀ error,
      entry.error = some error → ∃ cause : StepError, cause.IsSound ∧ error = cause.message := by
  intro entry member error found
  rcases List.mem_append.1 member with before | last
  · exact rest.entryCause entry before error found
  · rw [List.mem_singleton.1 last] at found
    exact sound error found

theorem advance {world after : σ} {c : Cursor} {step : Step} {e : Evaluated}
    (rest : AtRest p maxSteps d) (evaluates : Evaluates h d world c step e after)
    (success : e.result.success = true) (span : Span) :
    AtRest p maxSteps ((d.evaluated e span).advance c) := by
  have noFailure := rest.noFailure evaluates.live
  have next : c.next d.program = (Cursor.places p)[d.state.stepsExecuted + 1]? := by
    rw [rest.program]
    exact Cursor.next_place (rest.current.symm.trans evaluates.current)
  have silent := (evaluates.fits.succeeded success).1
  refine ⟨rest.program, rest.limit, ?_, next, ?_, ?_, ?_, ?_, ?_, ?_, rest.breakpoints⟩
  · simp only [Debugger.advance]
    split
    · simp
    · simp
  · simp only [Debugger.advance]
    cases c.next (d.evaluated e span).program with
    | none => simp
    | some place => simp
  · simp only [Debugger.advance, Debugger.evaluated, noFailure]
    split
    · simp
    · simp
  · intro f failure
    simp [Debugger.advance, Debugger.evaluated, noFailure] at failure
  · intro f failure
    simp [Debugger.advance, Debugger.evaluated, noFailure] at failure
  · exact rest.entryCause_evaluated span (by simp [silent])
  · have left := evaluates.left
    rw [rest.limit] at left
    exact left

theorem stop {world after : σ} {c : Cursor} {step : Step} {e : Evaluated} {cause : StepError}
    (rest : AtRest p maxSteps d) (valid : p.WellFormed)
    (evaluates : Evaluates h d world c step e after) (canStop : cause.CanStop step)
    (error : e.result.error = some cause.message) (span : Span) (time : Timestamp) :
    AtRest p maxSteps ((d.evaluated e span).fail step.id cause time) := by
  have found : c.step? p = some step := rest.program ▸ evaluates.found
  obtain ⟨s, same, onWalk⟩ := rest.step_found valid evaluates.current
  obtain rfl : s = step := Option.some.inj (same.symm.trans found)
  have declared := Program.walk_declared (List.mem_of_getElem? onWalk)
  have sound := canStop.sound (valid.complete s declared)
  have entries := rest.entryCause_evaluated span (e := e) (by
    intro text reported
    exact ⟨cause, sound, Option.some.inj (reported.symm.trans error)⟩)
  have failed := rest.fail evaluates.current sound time
  rw [← Cursor.step?_id found] at failed
  exact ⟨failed.program, failed.limit, failed.notRunning, failed.current, failed.completed,
    failed.failed, failed.failurePlace, failed.failureCause, entries, failed.bounded,
    failed.breakpoints⟩

theorem step {world after : σ} {result : Option StepResult} {next : Debugger}
    (rest : AtRest p maxSteps d) (valid : p.WellFormed)
    (moved : StepOver h d world result next after) : AtRest p maxSteps next := by
  cases moved with
  | stands final => exact rest
  | ends live current => exact absurd current (rest.live_cursor live)
  | limited live current spent =>
    have sound : (StepError.stepLimit d.maxSteps).IsSound := trivial
    exact rest.fail current sound _
  | lost live current unknown => exact absurd unknown (rest.step_known valid current)
  | succeeds evaluates success => exact rest.advance evaluates success _
  | fails evaluates failure unchanged canStop error kind =>
    exact rest.stop valid evaluates canStop error _ _

theorem setBreakpoint {changed : Debugger} {stepId : String} {enabled : Bool}
    (rest : AtRest p maxSteps d) (set : d.setBreakpoint stepId enabled = .ok changed) :
    AtRest p maxSteps changed := by
  obtain ⟨known, rfl⟩ := setBreakpoint_ok set
  refine ⟨rest.program, rest.limit, rest.notRunning, rest.current, rest.completed, rest.failed,
    rest.failurePlace, rest.failureCause, rest.entryCause, rest.bounded, ?_⟩
  intro id held
  dsimp only [marked] at held
  split at held
  · rw [Names.contains_insert, Bool.or_eq_true, beq_iff_eq] at held
    rcases held with rfl | before
    · exact rest.program ▸ known
    · exact rest.breakpoints id before
  · rw [Table.contains_erase, Bool.and_eq_true] at held
    exact rest.breakpoints id held.2

theorem setRiskLevel (rest : AtRest p maxSteps d) (level : RiskLevel) :
    AtRest p maxSteps (d.setRiskLevel level).2 := by
  rcases setRiskLevel_cases d level with ⟨error, -, -, set⟩ | ⟨-, set⟩
  · have placed : d.state.current ≠ none := fun none => by
      have completed := rest.completed.1 none
      simp [error] at completed
    rw [set]
    exact ⟨rest.program, rest.limit, by simp [lifted], rest.current,
      by simp [lifted, atLevel, placed], by simp [lifted], by simp [lifted], by simp [lifted],
      rest.entryCause, rest.bounded, rest.breakpoints⟩
  · rw [set]
    exact ⟨rest.program, rest.limit, rest.notRunning, rest.current, rest.completed, rest.failed,
      rest.failurePlace, rest.failureCause, rest.entryCause, rest.bounded, rest.breakpoints⟩

theorem kept (h : Host σ) (valid : p.WellFormed) (maxSteps : Nat) :
    Kept h fun d _ => AtRest p maxSteps d where
  stepOver {d world} rest := rest.step valid (stepOver_cases h d world)
  pause rest := by rwa [pause_eq rest.notRunning]
  reset rest := by
    rw [reset_eq_start, rest.program, rest.limit]
    exact start valid _ _
  evaluate _ rest := rest
  breakpoint rest set := rest.setBreakpoint set
  riskLevel level rest := rest.setRiskLevel level
  wait rest := rest

theorem run (valid : p.WellFormed) (analysis : Option Analysis) (options : Options)
    (ops : List Operation) (world : σ) :
    AtRest p maxSteps ((Debugger.start p analysis options maxSteps).operateAll h ops world).1 :=
  (kept h valid maxSteps).operateAll ops (start valid analysis options)

end AtRest

end Debugger

/-- What the state of a run of a program shows between operations. -/
structure RunState.Settled (p : Program) (maxSteps : Nat) (s : RunState) : Prop where
  notRunning : s.status ≠ .running
  completed : s.current = none ↔ s.status = .completed
  cursor : ∀ c, s.current = some c → (c.step? p).isSome = true ∧
    ∃ q, p.slots[c.orderIndex]? = some q ∧ q.id = c.procedureId
  failed : s.failure.isSome = true ↔ s.status = .error
  failurePlace : ∀ f, s.failure = some f → ∃ c, s.current = some c ∧ f.stepId = c.stepId
  bounded : s.stepsExecuted ≤ maxSteps
  breakpoints : ∀ id, Table.contains s.breakpoints id = true →
    ∃ q ∈ p.procedures, ∃ step ∈ q.steps, step.id = id
  noFaultyFailure : ∀ f, s.failure = some f →
    f.error ≠ StepError.noOptions.message ∧ ∀ id, f.error ≠ (StepError.unknownStep id).message
  noFaultyEntry : ∀ e ∈ s.history, e.error ≠ some StepError.noOptions.message ∧
    ∀ id, e.error ≠ some (StepError.unknownStep id).message

theorem Debugger.AtRest.settled {p : Program} {maxSteps : Nat} {d : Debugger}
    (rest : AtRest p maxSteps d) (valid : p.WellFormed) : d.state.Settled p maxSteps where
  notRunning := rest.notRunning
  completed := rest.completed
  cursor c current := by
    obtain ⟨step, found, -⟩ := rest.step_found valid current
    exact ⟨by simp [found], Cursor.place_slot (rest.current.symm.trans current)⟩
  failed := rest.failed
  failurePlace := rest.failurePlace
  bounded := rest.bounded
  breakpoints id marked := Program.findStep?_declared (rest.breakpoints id marked)
  noFaultyFailure f failure := by
    obtain ⟨cause, sound, -, error⟩ := rest.failureCause f failure
    rw [error]
    exact ⟨sound.message_ne id, fun _ => sound.message_ne id⟩
  noFaultyEntry e member := by
    have honest {fault : StepError} (faulty : ¬ fault.IsSound) :
        e.error ≠ some fault.message := by
      intro reported
      obtain ⟨cause, sound, same⟩ := rest.entryCause e member _ reported
      exact sound.message_ne faulty same.symm
    exact ⟨honest id, fun _ => honest id⟩

/-- Whatever an operator does with a run of a valid program, and whatever the host answers. -/
theorem settled_between_operations {σ : Type} (h : Host σ) {p : Program}
    {found : List Diagnostic} (ok : p.check = .ok found) (analysis : Option Analysis)
    (options : Options) (maxSteps : Nat) (ops : List Operation) (world : σ) :
    ((Debugger.start p analysis options maxSteps).operateAll h ops world).1.state.Settled p
      maxSteps :=
  (Debugger.AtRest.run (Program.wellFormed_of_check ok) analysis options ops world).settled
    (Program.wellFormed_of_check ok)

theorem greeting_settled : ∃ found, Program.greeting.check = .ok found ∧
    ((Debugger.start .greeting none { Options.standard with riskLevel := .low } 5).operateAll
      .echoing [.breakpoint "say" true, .command .resume, .command .resume, .riskLevel .high,
        .command .stepOut, .command .resume] 0).1.state.Settled .greeting 5 := by
  obtain ⟨found, ok⟩ := (Program.check_ok_iff .greeting).2 Program.greeting_wellFormed
  exact ⟨found, ok, settled_between_operations .echoing ok none _ 5 _ 0⟩

end Stepwise
