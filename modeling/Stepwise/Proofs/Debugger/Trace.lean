import Stepwise.Proofs.Debugger.Rest
/-!
What the history of a run of a valid program tells. The steps that succeeded are those at the front
of the walk, in order, as many as have been counted; the cursor is on the step after them; and a
step that failed is tried again before any other, or stands as the last entry.
-/

namespace Stepwise

def TraceEntry.Shaped (e : TraceEntry) : Prop :=
  if e.success then e.output.isSome = true ∧ e.error = none
  else e.output = none ∧ e.error.isSome = true

def TraceEntry.subject (e : TraceEntry) : String × String := (e.stepId, e.stepType)

def Step.subject (s : Step) : String × String := (s.id, s.kind.typeName)

/-- Every failure but the last is followed by another entry for its step. -/
def Retried (history : List TraceEntry) : Prop :=
  ∀ i e next, history[i]? = some e → e.success = false → history[i + 1]? = some next →
    next.subject = e.subject

theorem Retried.concat {history : List TraceEntry} {last : TraceEntry} (retried : Retried history)
    (same : ∀ e, history.getLast? = some e → e.success = false → last.subject = e.subject) :
    Retried (history ++ [last]) := by
  intro i e next found failure follows
  have inside : i < history.length := by
    have bound := (List.getElem?_eq_some_iff.1 follows).1
    simp only [List.length_append, List.length_singleton] at bound
    omega
  rw [List.getElem?_append_left inside] at found
  by_cases final : i + 1 = history.length
  · rw [List.getElem?_append_right (by omega), final, Nat.sub_self] at follows
    obtain rfl := Option.some.inj follows
    have position : history.length - 1 = i := by omega
    exact same e (by rw [List.getLast?_eq_getElem?, position, found]) failure
  · rw [List.getElem?_append_left (by omega)] at follows
    exact retried i e next found failure follows

namespace Debugger

/-- A run whose last evaluation failed stands where it failed, until the refusal of a command is
lifted or the run is reset. -/
structure Halted (p : Program) (maxSteps : Nat) (d : Debugger) (e : TraceEntry) : Prop where
  place : ∃ s, p.walk[d.state.stepsExecuted]? = some s ∧ e.subject = s.subject
  left : d.state.stepsExecuted < maxSteps
  status : (d.state.status = .error ∧ ∃ f, d.state.failure = some f ∧ e.error = some f.error) ∨
    (d.state.status = .paused ∧ ∃ level, e.error = some (StepError.riskBlocked level).message)

structure Traced (p : Program) (maxSteps : Nat) (d : Debugger) : Prop
    extends AtRest p maxSteps d where
  within : d.state.stepsExecuted ≤ p.walk.length
  passed : (d.state.history.filter (·.success)).map (·.subject) =
    (p.walk.take d.state.stepsExecuted).map (·.subject)
  shaped : ∀ e ∈ d.state.history, e.Shaped
  retried : Retried d.state.history
  halted : ∀ e, d.state.history.getLast? = some e → e.success = false → Halted p maxSteps d e

theorem AtRest.entry_subject {σ : Type} {h : Host σ} {p : Program} {maxSteps : Nat} {d : Debugger}
    {world after : σ} {c : Cursor} {step : Step} {e : Evaluated} (rest : AtRest p maxSteps d)
    (valid : p.WellFormed) (evaluates : Evaluates h d world c step e after) (span : Span) :
    p.walk[d.state.stepsExecuted]? = some step ∧
      (e.result.entry span).subject = step.subject := by
  obtain ⟨s, found, onWalk⟩ := rest.step_found valid evaluates.current
  rw [← rest.program, evaluates.found] at found
  refine ⟨by rw [onWalk, found], ?_⟩
  have id := evaluates.fits.stepId
  have type := evaluates.fits.stepType
  simp [TraceEntry.subject, StepResult.entry, Step.subject, id, type]

namespace Traced

variable {σ : Type} {h : Host σ} {p : Program} {maxSteps : Nat} {d : Debugger}

theorem start (valid : p.WellFormed) (analysis : Option Analysis) (options : Options) :
    Traced p maxSteps (.start p analysis options maxSteps) where
  toAtRest := .start valid analysis options
  within := Nat.zero_le _
  passed := by simp [Debugger.start, RunState.initial]
  shaped := by simp [Debugger.start, RunState.initial]
  retried := by simp [Debugger.start, RunState.initial, Retried]
  halted := by simp [Debugger.start, RunState.initial]

theorem concat {world after : σ} {c : Cursor} {step : Step} {e : Evaluated}
    (traced : Traced p maxSteps d) (valid : p.WellFormed)
    (evaluates : Evaluates h d world c step e after) (span : Span) :
    (∀ entry ∈ (d.evaluated e span).state.history, entry.Shaped) ∧
      Retried (d.evaluated e span).state.history := by
  constructor
  · intro entry member
    rcases List.mem_append.1 member with before | last
    · exact traced.shaped entry before
    · rw [List.mem_singleton.1 last]
      exact entry_shape evaluates.fits span
  · refine traced.retried.concat fun entry last failure => ?_
    obtain ⟨onWalk, subject⟩ := traced.entry_subject valid evaluates span
    obtain ⟨s, place, same⟩ := (traced.halted entry last failure).place
    obtain rfl := Option.some.inj (onWalk.symm.trans place)
    exact subject.trans same.symm

theorem advance {world after : σ} {c : Cursor} {step : Step} {e : Evaluated}
    (traced : Traced p maxSteps d) (valid : p.WellFormed)
    (evaluates : Evaluates h d world c step e after) (success : e.result.success = true)
    (span : Span) :
    Traced p maxSteps ((d.evaluated e span).advance c) := by
  obtain ⟨shaped, retried⟩ := traced.concat valid evaluates span
  obtain ⟨onWalk, subject⟩ := traced.entry_subject valid evaluates span
  have entered : (e.result.entry span).success = true := success
  refine ⟨traced.toAtRest.advance evaluates success span, ?_, ?_, shaped, retried, ?_⟩
  · exact (List.getElem?_eq_some_iff.1 onWalk).1
  · change ((d.state.history ++ [e.result.entry span]).filter (·.success)).map _ =
      (p.walk.take (d.state.stepsExecuted + 1)).map _
    rw [List.filter_append, List.map_append, traced.passed, List.take_add_one, onWalk,
      List.map_append]
    simp [entered, subject]
  · intro entry last failure
    have same : some (e.result.entry span) = some entry := by
      rw [← last]
      simp [Debugger.advance, Debugger.evaluated]
    rw [← Option.some.inj same, entered] at failure
    simp at failure

theorem stop {world after : σ} {c : Cursor} {step : Step} {e : Evaluated} {cause : StepError}
    (traced : Traced p maxSteps d) (valid : p.WellFormed)
    (evaluates : Evaluates h d world c step e after) (failure : e.result.success = false)
    (canStop : cause.CanStop step) (error : e.result.error = some cause.message) (span : Span)
    (time : Timestamp) :
    Traced p maxSteps ((d.evaluated e span).fail step.id cause time) := by
  obtain ⟨shaped, retried⟩ := traced.concat valid evaluates span
  have entered : (e.result.entry span).success = false := failure
  refine ⟨traced.toAtRest.stop valid evaluates canStop error span time, traced.within, ?_,
    shaped, retried, ?_⟩
  · change ((d.state.history ++ [e.result.entry span]).filter (·.success)).map _ = _
    rw [List.filter_append, List.map_append, traced.passed]
    simp [entered, Debugger.fail, Debugger.evaluated, RunState.fail]
  · intro entry last _
    have same : e.result.entry span = entry := by
      apply Option.some.inj
      rw [← last]
      simp [Debugger.fail, Debugger.evaluated, RunState.fail]
    subst same
    have left := evaluates.left
    rw [traced.limit] at left
    obtain ⟨onWalk, subject⟩ := traced.entry_subject valid evaluates span
    exact ⟨⟨step, onWalk, subject⟩, left, .inl ⟨rfl, _, rfl, error⟩⟩

theorem adjust {next : Debugger} (traced : Traced p maxSteps d) (rest : AtRest p maxSteps next)
    (executed : next.state.stepsExecuted = d.state.stepsExecuted)
    (history : next.state.history = d.state.history)
    (halted : ∀ e, d.state.history.getLast? = some e → e.success = false →
      Halted p maxSteps next e) : Traced p maxSteps next where
  toAtRest := rest
  within := executed ▸ traced.within
  passed := by rw [history, executed, traced.passed]
  shaped := history ▸ traced.shaped
  retried := history ▸ traced.retried
  halted := history ▸ halted

theorem step {world after : σ} {result : Option StepResult} {next : Debugger}
    (traced : Traced p maxSteps d) (valid : p.WellFormed)
    (moved : StepOver h d world result next after) : Traced p maxSteps next := by
  have rest := traced.toAtRest.step valid moved
  cases moved with
  | stands final => exact traced
  | ends live current => exact absurd current (traced.live_cursor live)
  | limited live current spent =>
    refine traced.adjust rest rfl rfl fun e last failure => ?_
    have left := (traced.halted e last failure).left
    rw [traced.limit] at spent
    omega
  | lost live current unknown => exact absurd unknown (traced.step_known valid current)
  | succeeds evaluates success => exact traced.advance valid evaluates success _
  | fails evaluates failure unchanged canStop error kind =>
    exact traced.stop valid evaluates failure canStop error _ _

theorem setBreakpoint {changed : Debugger} {stepId : String} {enabled : Bool}
    (traced : Traced p maxSteps d) (set : d.setBreakpoint stepId enabled = .ok changed) :
    Traced p maxSteps changed := by
  have rest := traced.toAtRest.setBreakpoint set
  obtain ⟨-, rfl⟩ := setBreakpoint_ok set
  refine traced.adjust rest rfl rfl fun e last failure => ?_
  obtain ⟨place, left, status⟩ := traced.halted e last failure
  exact ⟨place, left, status⟩

theorem setRiskLevel (traced : Traced p maxSteps d) (level : RiskLevel) :
    Traced p maxSteps (d.setRiskLevel level).2 := by
  have rest := traced.toAtRest.setRiskLevel level
  rcases setRiskLevel_cases d level with ⟨blocked, ⟨f, stopped, risk⟩, -, set⟩ | ⟨-, set⟩
  · rw [set] at rest ⊢
    refine traced.adjust rest rfl rfl fun e last failure => ?_
    obtain ⟨place, left, ⟨-, g, known, error⟩ | ⟨paused, -⟩⟩ := traced.halted e last failure
    · obtain rfl : f = g := Option.some.inj (stopped.symm.trans known)
      obtain ⟨cause, -, kind, text⟩ := traced.failureCause f stopped
      rw [risk] at kind
      refine ⟨place, left, .inr ⟨rfl, ?_⟩⟩
      cases cause with
      | riskBlocked level => exact ⟨level, by rw [error, text]⟩
      | aborted _ | exited _ _ | noOptions | stepLimit _ | unknownStep _ =>
        simp [StepError.kind] at kind
    · simp [paused] at blocked
  · rw [set] at rest ⊢
    refine traced.adjust rest rfl rfl fun e last failure => ?_
    obtain ⟨place, left, status⟩ := traced.halted e last failure
    exact ⟨place, left, status⟩

theorem kept (h : Host σ) (valid : p.WellFormed) (maxSteps : Nat) :
    Kept h fun d _ => Traced p maxSteps d where
  stepOver {d world} traced := traced.step valid (stepOver_cases h d world)
  pause traced := by rwa [pause_eq traced.notRunning]
  reset traced := by
    rw [reset_eq_start, traced.program, traced.limit]
    exact start valid _ _
  evaluate _ traced := traced
  breakpoint traced set := traced.setBreakpoint set
  riskLevel level traced := traced.setRiskLevel level
  wait traced := traced

theorem run (valid : p.WellFormed) (analysis : Option Analysis) (options : Options)
    (ops : List Operation) (world : σ) :
    Traced p maxSteps ((Debugger.start p analysis options maxSteps).operateAll h ops world).1 :=
  (kept h valid maxSteps).operateAll ops (start valid analysis options)

end Traced

end Debugger

/-- What the history of a run tells of the walk of its program. -/
structure RunState.Faithful (p : Program) (s : RunState) : Prop where
  within : s.stepsExecuted ≤ p.walk.length
  passed : (s.history.filter (·.success)).map (·.subject) =
    (p.walk.take s.stepsExecuted).map (·.subject)
  cursor : ∀ c, s.current = some c → c.instructionPointer = s.stepsExecuted ∧
    ∃ step, p.walk[s.stepsExecuted]? = some step ∧ c.step? p = some step
  shaped : ∀ e ∈ s.history, e.Shaped
  failed : ∀ i e, s.history[i]? = some e → e.success = false →
    (∃ next, s.history[i + 1]? = some next ∧ next.subject = e.subject) ∨
      (i + 1 = s.history.length ∧
        (∃ step, p.walk[s.stepsExecuted]? = some step ∧ e.subject = step.subject) ∧
        (s.status = .error ∨
          s.status = .paused ∧ ∃ level, e.error = some (StepError.riskBlocked level).message))

theorem Debugger.Traced.faithful {p : Program} {maxSteps : Nat} {d : Debugger}
    (traced : Traced p maxSteps d) (valid : p.WellFormed) : d.state.Faithful p where
  within := traced.within
  passed := traced.passed
  cursor c current := by
    obtain ⟨step, found, onWalk⟩ := traced.step_found valid current
    exact ⟨Cursor.place_pointer (traced.current.symm.trans current), step, onWalk, found⟩
  shaped := traced.shaped
  failed i e found failure := by
    have inside := (List.getElem?_eq_some_iff.1 found).1
    by_cases final : i + 1 = d.state.history.length
    · have position : d.state.history.length - 1 = i := by omega
      have last : d.state.history.getLast? = some e := by
        rw [List.getLast?_eq_getElem?, position, found]
      obtain ⟨place, -, status⟩ := traced.halted e last failure
      exact .inr ⟨final, place, status.imp_left (·.1)⟩
    · have more : i + 1 < d.state.history.length := by omega
      have follows := List.getElem?_eq_getElem more
      exact .inl ⟨_, follows, traced.retried i e _ found failure follows⟩

/-- No step of a valid program is passed over, repeated after its success or taken out of turn. -/
theorem history_tells_walk {σ : Type} (h : Host σ) {p : Program} {found : List Diagnostic}
    (ok : p.check = .ok found) (analysis : Option Analysis) (options : Options) (maxSteps : Nat)
    (ops : List Operation) (world : σ) :
    ((Debugger.start p analysis options maxSteps).operateAll h ops world).1.state.Faithful p :=
  (Debugger.Traced.run (Program.wellFormed_of_check ok) analysis options ops world).faithful
    (Program.wellFormed_of_check ok)

theorem greeting_history : ∃ found, Program.greeting.check = .ok found ∧
    ((Debugger.start .greeting none { Options.standard with riskLevel := .low } 3).operateAll
      .echoing [.command .resume, .riskLevel .medium, .riskLevel .low, .command .stepOver,
        .riskLevel .high, .command .stepInto, .command .resume] 0).1.state.Faithful .greeting := by
  obtain ⟨found, ok⟩ := (Program.check_ok_iff .greeting).2 Program.greeting_wellFormed
  exact ⟨found, ok, history_tells_walk .echoing ok none _ 3 _ 0⟩

end Stepwise
