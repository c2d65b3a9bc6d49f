import Stepwise.Proofs.Debugger.Ended
import Stepwise.Proofs.Run.Attempt
/-!
What the outcome of a command tells of it. The steps that it counts are the entries that the history
has gained, its result is that of the last of them, and it is no success just if stepping has left
the run in error or an expression was a command that came to nothing.
-/

namespace Stepwise

structure TraceEntry.Tells (e : TraceEntry) (r : StepResult) : Prop where
  stepId : e.stepId = r.stepId
  stepType : e.stepType = r.stepType
  success : e.success = r.success
  error : e.error = r.error
  output : e.output = if r.success then some r.output else none

namespace Debugger

variable {σ : Type} {h : Host σ}

/-- One run has gone on from another by evaluations: these are their entries, and of the last of
them this is the result. -/
structure WentOn (d next : Debugger) (entries : List TraceEntry) (last : Option StepResult) :
    Prop where
  history : next.state.history = d.state.history ++ entries
  executed : next.state.stepsExecuted = d.state.stepsExecuted + entries.countP (·.success)
  silent : last = none → entries = []
  told : ∀ r, last = some r → ∃ e, entries.getLast? = some e ∧ e.Tells r
  failed : ∀ r, last = some r → r.success = false → next.state.status = .error

theorem WentOn.idle {d next : Debugger} (history : next.state.history = d.state.history)
    (executed : next.state.stepsExecuted = d.state.stepsExecuted) : WentOn d next [] none :=
  ⟨by rw [history, List.append_nil], executed, fun _ => rfl, by simp, by simp⟩

theorem WentOn.isSome_iff {d next : Debugger} {entries : List TraceEntry}
    {last : Option StepResult} (onward : WentOn d next entries last) :
    last.isSome = true ↔ 0 < entries.length := by
  cases last with
  | none => simp [onward.silent rfl]
  | some r =>
    obtain ⟨e, last, -⟩ := onward.told r rfl
    have member := List.mem_of_getLast? last
    simpa using List.length_pos_of_mem member

theorem WentOn.before {d m next : Debugger} {e : TraceEntry} {r : StepResult}
    {entries : List TraceEntry} {last : Option StepResult} (first : WentOn d m [e] (some r))
    (success : r.success = true) (later : WentOn m next entries last) :
    WentOn d next (e :: entries) (last.or (some r)) where
  history := by rw [later.history, first.history, List.append_assoc, List.singleton_append]
  executed := by
    rw [later.executed, first.executed, List.countP_cons, List.countP_cons, List.countP_nil]
    omega
  silent nothing := by simp at nothing
  told r' final := by
    cases last with
    | none =>
      obtain ⟨e', only, tells⟩ := first.told r rfl
      obtain rfl : r = r' := Option.some.inj final
      exact ⟨e', by rw [later.silent rfl, only], tells⟩
    | some r'' =>
      obtain rfl : r'' = r' := Option.some.inj final
      obtain ⟨e', final, tells⟩ := later.told r'' rfl
      exact ⟨e', by rw [List.getLast?_cons, final]; rfl, tells⟩
  failed r' final failure := by
    cases last with
    | none =>
      obtain rfl : r = r' := Option.some.inj final
      simp [success] at failure
    | some r'' => exact later.failed r' final failure

theorem StepOver.idle {d next : Debugger} {world after : σ}
    (moved : StepOver h d world none next after) : WentOn d next [] none := by
  cases moved with
  | stands | ends | limited | lost => exact .idle rfl rfl

theorem StepOver.once {d next : Debugger} {world after : σ} {r : StepResult}
    (moved : StepOver h d world (some r) next after) : ∃ e, WentOn d next [e] (some r) := by
  cases moved with
  | @succeeds c step e after evaluates success =>
    refine ⟨e.result.entry (h.span world (h.wait after)), rfl, ?_, by simp, ?_, ?_⟩
    · simp [Debugger.advance, evaluated, StepResult.entry, success]
    · rintro r ⟨⟩
      exact ⟨_, rfl, rfl, rfl, rfl, rfl, rfl⟩
    · rintro r ⟨⟩ failure
      simp [success] at failure
  | @fails c step e after cause evaluates failure =>
    refine ⟨e.result.entry (h.span world (h.wait after)), rfl, ?_, by simp, ?_, fun _ _ _ => rfl⟩
    · simp [Debugger.fail, RunState.fail, evaluated, StepResult.entry, failure]
    · rintro r ⟨⟩
      exact ⟨_, rfl, rfl, rfl, rfl, rfl, rfl⟩

theorem runFuel_wentOn (stop : RunState → Bool) (fuel : Nat) (d : Debugger) (world : σ) :
    ∃ entries, entries.length = (runFuel h stop fuel d world).1.1.2 ∧
      WentOn d (runFuel h stop fuel d world).1.2 entries (runFuel h stop fuel d world).1.1.1 := by
  induction fuel generalizing d world with
  | zero => exact ⟨[], rfl, .idle rfl rfl⟩
  | succ fuel ih =>
    have moved := stepOver_cases h d world
    rcases stepped : d.stepOver h world with ⟨⟨result, next⟩, after⟩
    simp only [stepped] at moved
    cases result with
    | none => exact ⟨[], by simp [runFuel, stepped], by simpa [runFuel, stepped] using moved.idle⟩
    | some r =>
      obtain ⟨e, once⟩ := moved.once
      by_cases halted : halts stop next.state r = true
      · exact ⟨[e], by simp [runFuel, stepped, halted],
          by simpa [runFuel, stepped, halted] using once⟩
      · -- a failure halts the run, so what goes on goes on behind a success
        have success : r.success = true := by
          refine Decidable.by_contra fun failure => halted ?_
          simp [halts, once.failed r rfl (by simpa using failure)]
        obtain ⟨entries, count, later⟩ := ih next after
        refine ⟨e :: entries, by simp [runFuel, stepped, halted, count], ?_⟩
        simpa [runFuel, stepped, halted] using once.before success later

theorem stepOver_wentOn (d : Debugger) (world : σ) :
    ∃ entries, entries.length = (if (d.stepOver h world).1.1.isSome then 1 else 0) ∧
      WentOn d (d.stepOver h world).1.2 entries (d.stepOver h world).1.1 := by
  have moved := stepOver_cases h d world
  cases result : (d.stepOver h world).1.1 with
  | none =>
    rw [result] at moved
    exact ⟨[], rfl, moved.idle⟩
  | some r =>
    rw [result] at moved
    obtain ⟨e, once⟩ := moved.once
    exact ⟨[e], rfl, once⟩

theorem stepOut_wentOn (d : Debugger) (world : σ) :
    ∃ entries, entries.length = (d.stepOut h world).1.1.2 ∧
      WentOn d (d.stepOut h world).1.2 entries (d.stepOut h world).1.1.1 := by
  unfold stepOut
  cases current : d.state.current with
  | some c => exact runFuel_wentOn _ _ d world
  | none =>
    have nothing := stepOver_nowhere h current world
    have moved := stepOver_cases h d world
    rw [nothing] at moved
    exact ⟨[], rfl, nothing ▸ moved.idle⟩

theorem execute_wentOn {command : DebugCommand} (onward : command ≠ .reset) (d : Debugger)
    (world : σ) : ∃ entries, entries.length = (d.execute h command world).1.1.stepsRun ∧
      WentOn d (d.execute h command world).1.2 entries
        (d.execute h command world).1.1.stepResult := by
  cases command with
  | stepOver => exact stepOver_wentOn d world
  | stepInto => exact stepOver_wentOn d world
  | stepOut => exact stepOut_wentOn d world
  | resume => exact runFuel_wentOn (fun _ => false) (d.maxSteps - d.state.stepsExecuted + 1) d world
  | pause =>
    obtain ⟨status, paused, -⟩ := d.pause_state
    exact ⟨[], rfl, .idle (congrArg (·.state.history) paused)
      (congrArg (·.state.stepsExecuted) paused)⟩
  | reset => exact absurd rfl onward
  | evaluate expression => exact ⟨[], rfl, .idle rfl rfl⟩
  | inspect name => exact ⟨[], rfl, .idle rfl rfl⟩

theorem outcome_success (before : Status) (isStepping : Bool) (d : Debugger)
    (stepResult : Option StepResult) (stepsRun : Nat) (evaluation : Option Evaluation)
    (inspection : Option Inspection) :
    (d.outcome before isStepping stepResult stepsRun evaluation inspection).success = false ↔
      (d.state.status = .error ∧ before ≠ .error) ∨ (isStepping = true ∧ before = .error) ∨
        (∃ r, stepResult = some r ∧ r.success = false) ∨
        ∃ e, evaluation = some e ∧ e.succeeded = false := by
  have entered : (!decide (d.state.status = .error ∧ before ≠ .error)) = false ↔
      d.state.status = .error ∧ before ≠ .error := by simp
  have frozen : (!decide (isStepping = true ∧ before = .error)) = false ↔
      isStepping = true ∧ before = .error := by simp
  have result : (stepResult.map (·.success)).getD true = false ↔
      ∃ r, stepResult = some r ∧ r.success = false := by
    cases stepResult with
    | none => simp
    | some r => simp
  have value : (evaluation.map (·.succeeded)).getD true = false ↔
      ∃ e, evaluation = some e ∧ e.succeeded = false := by
    cases evaluation with
    | none => simp
    | some e => simp
  simp only [outcome, Bool.and_eq_false_iff, entered, frozen, result, value, or_assoc]

theorem execute_stepping {command : DebugCommand} (stepping : command.isStepping = true)
    (d : Debugger) (world : σ) :
    (d.execute h command world).1.1 = (d.execute h command world).1.2.outcome d.state.status true
      (d.execute h command world).1.1.stepResult (d.execute h command world).1.1.stepsRun
      none none := by
  cases command with
  | stepOver | stepInto | stepOut | resume => rfl
  | pause | reset | evaluate | inspect => simp [DebugCommand.isStepping] at stepping

theorem stepping_fails {command : DebugCommand} (stepping : command.isStepping = true)
    (d : Debugger) (world : σ) : (d.execute h command world).1.1.success = false ↔
      (d.execute h command world).1.2.state.status = .error := by
  have onward : command ≠ .reset := by
    rintro rfl
    simp [DebugCommand.isStepping] at stepping
  obtain ⟨entries, -, went⟩ := execute_wentOn (h := h) onward d world
  rw [execute_stepping stepping, outcome_success]
  constructor
  · rintro (⟨error, -⟩ | ⟨-, before⟩ | ⟨r, last, failure⟩ | ⟨e, none, -⟩)
    · exact error
    · have final : d.state.status.isFinal = true := by rw [before]; rfl
      rw [execute_final final stepping]
      exact before
    · exact went.failed r last failure
    · simp at none
  · intro error
    by_cases before : d.state.status = .error
    · exact .inr (.inl ⟨rfl, before⟩)
    · exact .inl ⟨error, before⟩

theorem execute_fails (d : Debugger) (command : DebugCommand) (world : σ) :
    (d.execute h command world).1.1.success = false ↔
      (command.isStepping = true ∧ (d.execute h command world).1.2.state.status = .error) ∨
        ∃ expression template, command = .evaluate expression ∧
          commandTemplate? expression = some template ∧
          (d.options.failure? h world (d.state.vars.fill template)).isSome = true := by
  cases command with
  | stepOver | stepInto | stepOut | resume =>
    rw [stepping_fails rfl]
    simp [DebugCommand.isStepping]
  | pause =>
    obtain ⟨status, paused, error⟩ := d.pause_state
    simp [execute, outcome_success, DebugCommand.isStepping, paused, error]
  | reset => simp [execute, outcome_success, DebugCommand.isStepping, reset, RunState.initial]
  | evaluate expression =>
    simp [execute, outcome_success, DebugCommand.isStepping, evaluate_fails]
  | inspect name => simp [execute, outcome_success, DebugCommand.isStepping]

end Debugger

/-- What the outcome of a command says is so: of the entries that the history has gained, of the
steps that have been executed, of the last result and of how the command went. -/
structure Outcome.TrueOf (o : Outcome) (h : Host σ) (world : σ) (d : Debugger)
    (command : DebugCommand) (after : Debugger) : Prop where
  state : o.state = after.state
  gained : command ≠ .reset → ∃ entries, after.state.history = d.state.history ++ entries ∧
    entries.length = o.stepsRun ∧
    after.state.stepsExecuted = d.state.stepsExecuted + entries.countP (·.success) ∧
    ∀ r, o.stepResult = some r → ∃ e, entries.getLast? = some e ∧ e.Tells r
  present : o.stepResult.isSome = true ↔ 0 < o.stepsRun
  single : command = .stepOver ∨ command = .stepInto → o.stepsRun ≤ 1
  idle : command.isStepping = false → o.stepsRun = 0
  fails : o.success = false ↔ (command.isStepping = true ∧ after.state.status = .error) ∨
    ∃ expression template, command = .evaluate expression ∧
      commandTemplate? expression = some template ∧
      (d.options.failure? h world (d.state.vars.fill template)).isSome = true

theorem outcomes_true {σ : Type} (h : Host σ) (d : Debugger) (command : DebugCommand) (world : σ) :
    (d.execute h command world).1.1.TrueOf h world d command (d.execute h command world).1.2 where
  state := Debugger.execute_state h d command world
  gained onward := by
    obtain ⟨entries, count, went⟩ := Debugger.execute_wentOn (h := h) onward d world
    exact ⟨entries, went.history, count, went.executed, went.told⟩
  present := by
    by_cases onward : command = .reset
    · subst onward
      exact ⟨nofun, nofun⟩
    · obtain ⟨entries, count, went⟩ := Debugger.execute_wentOn (h := h) onward d world
      rw [← count, went.isSome_iff]
  single stepping := by
    have once : (if (d.stepOver h world).1.1.isSome then 1 else 0) ≤ 1 := by
      split
      · exact Nat.le_refl 1
      · exact Nat.zero_le 1
    rcases stepping with rfl | rfl
    · exact once
    · exact once
  idle still := by
    cases command with
    | stepOver | stepInto | stepOut | resume => simp [DebugCommand.isStepping] at still
    | pause | reset | evaluate | inspect => rfl
  fails := Debugger.execute_fails d command world

/-- The only step evaluated succeeds, and the run ends in error behind it: no step is left to it. -/
theorem greeting_spent :
    let d := Debugger.start .greeting none Options.standard 1
    let done := (d.execute .echoing .resume 0).1
    done.1.stepsRun = 1 ∧ done.1.stepResult.map (·.success) = some true ∧
      done.1.success = false ∧ done.1.TrueOf .echoing 0 d .resume done.2 := by
  intro d done
  have told := outcomes_true .echoing d .resume 0
  exact ⟨by decide +kernel, by decide +kernel, told.fails.2 (.inl ⟨rfl, by decide +kernel⟩), told⟩

end Stepwise
