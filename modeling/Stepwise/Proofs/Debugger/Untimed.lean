import Stepwise.Proofs.Debugger.Extent
import Stepwise.Proofs.Debugger.Schedule
/-!
Whole runs without their clock. Where commands are answered by a function, a run whose times are
forgotten is what it would have been without a clock: each command reports the same, and the state
that it leaves is the same.
-/

namespace Stepwise

namespace Variables

theorem lookup_untimed (v : Variables) (name : String) : v.untimed.lookup name = v.lookup name := by
  simp only [lookup, find?_untimed]

theorem evaluate_untimed (v : Variables) (options : Options) (expression : String) :
    v.untimed.evaluate options expression = v.evaluate options expression := by
  simp only [evaluate, attempt_untimed, lookup_untimed, fill_untimed]

theorem evaluate_answers {h : Host σ} {answer : Request → Reply} (answers : h.Answers answer)
    (v : Variables) (options : Options) (expression : String) (world : σ) :
    ((v.evaluate options expression).run h world).1 =
      ((v.evaluate options expression).run (.ofAnswers answer) ()).1 := by
  unfold evaluate
  split
  · next template _ =>
    have reply := answers ⟨v.fill (Text.trim (String.ofList template)), options.timeoutMs,
      options.memoryLimit⟩ world
    unfold attempt
    dsimp only
    split
    · rfl
    · simp only [Plan.map, Plan.run, reply, Host.ofAnswers]
      cases answer _ with
      | ok output => rfl
      | error error => rfl
  · split
    · rfl
    · rfl

end Variables

def Outcome.untimed (o : Outcome) : Outcome := { o with state := o.state.untimed }

namespace Debugger

variable {σ : Type} {h : Host σ} {answer : Request → Reply}

def untimed (d : Debugger) : Debugger := { d with state := d.state.untimed }

theorem stepOver_untimed (answers : h.Answers answer) (d : Debugger) (world : σ) :
    ((d.stepOver h world).1.1, (d.stepOver h world).1.2.untimed) =
      (d.untimed.stepOver (.ofAnswers answer) ()).1 := by
  have marks : (d.stepOver h world).1.2.state.breakpoints = d.state.breakpoints :=
    (stepOver_cases h d world).breakpoints
  have here : d.untimed = d.bare d.state.breakpoints := rfl
  have there : (d.stepOver h world).1.2.untimed =
      (d.stepOver h world).1.2.bare d.state.breakpoints := by
    rw [← marks]
    rfl
  rw [here, there]
  exact stepOver_bare answers d.state.breakpoints d world

theorem halts_untimed {stop : RunState → Bool} (timeless : ∀ s : RunState, stop s.untimed = stop s)
    (s : RunState) (result : StepResult) : halts stop s.untimed result = halts stop s result := by
  simp only [halts, timeless]
  rfl

theorem runFuel_untimed (answers : h.Answers answer) (stop : RunState → Bool)
    (timeless : ∀ s : RunState, stop s.untimed = stop s) (fuel : Nat) (d : Debugger) (world : σ) :
    ((runFuel h stop fuel d world).1.1, (runFuel h stop fuel d world).1.2.untimed) =
      (runFuel (.ofAnswers answer) stop fuel d.untimed ()).1 := by
  induction fuel generalizing d world with
  | zero => rfl
  | succ fuel ih =>
    have step := stepOver_untimed answers d world
    rcases stepped : d.stepOver h world with ⟨⟨result, next⟩, after⟩
    have stepped' : d.untimed.stepOver (.ofAnswers answer) () = ((result, next.untimed), ()) := by
      rw [stepped] at step
      exact Prod.ext step.symm rfl
    cases result with
    | none => simp only [runFuel, stepped, stepped']
    | some result =>
      have halted : halts stop next.untimed.state result = halts stop next.state result :=
        halts_untimed timeless next.state result
      simp only [runFuel, stepped, stepped', halted]
      split
      · rfl
      · simp only [← ih next after]

theorem outcome_untimed (d : Debugger) (before : Status) (isStepping : Bool)
    (result : Option StepResult) (count : Nat) (evaluation : Option Evaluation)
    (inspection : Option Inspection) :
    (d.outcome before isStepping result count evaluation inspection).untimed =
      d.untimed.outcome before isStepping result count evaluation inspection := rfl

/-- A command reports the same and leaves the same as without a clock. -/
theorem execute_untimed (answers : h.Answers answer) (d : Debugger) (command : DebugCommand)
    (world : σ) :
    ((d.execute h command world).1.1.untimed, (d.execute h command world).1.2.untimed) =
      (d.untimed.execute (.ofAnswers answer) command ()).1 := by
  have status : d.untimed.state.status = d.state.status := rfl
  have current : d.untimed.state.current = d.state.current := rfl
  have limit : d.untimed.maxSteps - d.untimed.state.stepsExecuted =
      d.maxSteps - d.state.stepsExecuted := rfl
  have once := stepOver_untimed answers d world
  cases command with
  | stepOver | stepInto =>
    simp only [execute, ← once, status, outcome_untimed]
  | stepOut =>
    simp only [execute, stepOut, current, status]
    cases d.state.current with
    | none => simp only [← once, outcome_untimed]
    | some c =>
      have run := runFuel_untimed answers (hasLeft c.orderIndex) (fun _ => rfl)
        (d.maxSteps - d.state.stepsExecuted + 1) d world
      simp only [runUntil, limit, ← run, outcome_untimed]
  | resume =>
    have run := runFuel_untimed answers (fun _ => false) (fun _ => rfl)
      (d.maxSteps - d.state.stepsExecuted + 1) d world
    simp only [execute, resume, runUntil, limit, ← run, status, outcome_untimed]
  | pause =>
    have paused : d.untimed.pause = d.pause.untimed := by
      unfold pause
      rw [status]
      split
      · rfl
      · rfl
    simp only [execute, paused, status, outcome_untimed]
  | reset => rfl
  | evaluate expression =>
    have vars : d.untimed.state.vars = d.state.vars.untimed := rfl
    have options : d.untimed.options = d.options := rfl
    simp only [execute, vars, options, Variables.evaluate_untimed,
      ← Variables.evaluate_answers answers d.state.vars d.options expression world, status,
      outcome_untimed]
  | inspect name =>
    have vars : d.untimed.state.vars = d.state.vars.untimed := rfl
    have seen : d.state.vars.untimed.inspect name = d.state.vars.inspect name := by
      simp only [Variables.inspect, Variables.lookup_untimed]
    simp only [execute, vars, seen, status, outcome_untimed]

theorem setRiskLevel_untimed (d : Debugger) (level : RiskLevel) :
    d.untimed.setRiskLevel level =
      ((d.setRiskLevel level).1, (d.setRiskLevel level).2.untimed) := by
  have blocked : ({ d.untimed with
      options := { d.untimed.options with riskLevel := level } } : Debugger).isRiskBlocked =
        ({ d with options := { d.options with riskLevel := level } } : Debugger).isRiskBlocked := by
    simp only [isRiskBlocked, untimed, RunState.untimed, Option.map_map]
    rfl
  unfold setRiskLevel
  dsimp only
  rw [blocked]
  split
  · rfl
  · rfl

theorem operate_untimed (answers : h.Answers answer) (d : Debugger) (op : Operation) (world : σ) :
    (d.operate h op world).1.untimed = (d.untimed.operate (.ofAnswers answer) op ()).1 := by
  cases op with
  | command command => exact congrArg (·.2) (execute_untimed answers d command world)
  | breakpoint stepId enabled =>
    have program : d.untimed.program = d.program := rfl
    simp only [operate, setBreakpoint, program]
    cases d.program.findStep? stepId with
    | none => rfl
    | some found => rfl
  | riskLevel level => simp only [operate, setRiskLevel_untimed]

end Debugger

end Stepwise
