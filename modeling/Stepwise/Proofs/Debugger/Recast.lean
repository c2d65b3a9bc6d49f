import Stepwise.Proofs.Debugger.Operation
/-!
What does not bear on a run. The analysis of its program and the wish to have it run on as soon as
it is started are kept with a run and handed back on request; no operation looks at them.
-/

namespace Stepwise

namespace Debugger

variable {σ : Type} (h : Host σ) (f : Option Analysis → Option Analysis) (g : Bool → Bool)

/-- A run that bears another analysis and another wish to run on. -/
def recast (d : Debugger) : Debugger :=
  { d with
    analysis := f d.analysis
    options := { d.options with autoContinue := g d.options.autoContinue } }

theorem plan_recast (d : Debugger) (step : Step) (v : Variables) :
    step.plan (d.recast f g).options v = step.plan d.options v := rfl

theorem evaluate_recast (d : Debugger) (v : Variables) (expression : String) :
    v.evaluate (d.recast f g).options expression = v.evaluate d.options expression := rfl

theorem evaluateAt_recast (d : Debugger) (c : Cursor) (step : Step) (world : σ) :
    (d.recast f g).evaluateAt h c step world =
      (((d.evaluateAt h c step world).1.1, (d.evaluateAt h c step world).1.2.recast f g),
        (d.evaluateAt h c step world).2) := by
  have state : (d.recast f g).state = d.state := rfl
  rcases outcome : (step.plan d.options d.state.vars).run h world with ⟨e, after⟩
  simp only [evaluateAt, RunState.evaluate, state, plan_recast, outcome]
  cases e.result.success with
  | true => rfl
  | false => rfl

theorem stepOver_recast (d : Debugger) (world : σ) :
    (d.recast f g).stepOver h world =
      (((d.stepOver h world).1.1, (d.stepOver h world).1.2.recast f g),
        (d.stepOver h world).2) := by
  have state : (d.recast f g).state = d.state := rfl
  have limit : (d.recast f g).maxSteps = d.maxSteps := rfl
  have program : (d.recast f g).program = d.program := rfl
  simp only [stepOver, state, limit, program]
  split
  · rfl
  · cases d.state.current with
    | none => rfl
    | some c =>
      dsimp only
      split
      · rfl
      · cases c.step? d.program with
        | none => rfl
        | some step => simp only [evaluateAt_recast]

theorem runFuel_recast (stop : RunState → Bool) (fuel : Nat) (d : Debugger) (world : σ) :
    runFuel h stop fuel (d.recast f g) world =
      (((runFuel h stop fuel d world).1.1, (runFuel h stop fuel d world).1.2.recast f g),
        (runFuel h stop fuel d world).2) := by
  induction fuel generalizing d world with
  | zero => rfl
  | succ fuel ih =>
    have step := stepOver_recast h f g d world
    rcases stepped : d.stepOver h world with ⟨⟨result, next⟩, after⟩
    rw [stepped] at step
    cases result with
    | none => simp only [runFuel, stepped, step]
    | some result =>
      have state : (next.recast f g).state = next.state := rfl
      simp only [runFuel, stepped, step, state]
      split
      · rfl
      · simp only [ih next after]

theorem execute_recast (d : Debugger) (command : DebugCommand) (world : σ) :
    (d.recast f g).execute h command world =
      (((d.execute h command world).1.1, (d.execute h command world).1.2.recast f g),
        (d.execute h command world).2) := by
  have state : (d.recast f g).state = d.state := rfl
  have limit : (d.recast f g).maxSteps = d.maxSteps := rfl
  cases command with
  | stepOver | stepInto =>
    simp only [execute, stepOver_recast, state]
    rfl
  | stepOut =>
    simp only [execute, stepOut, state]
    cases d.state.current with
    | none =>
      simp only [stepOver_recast]
      rfl
    | some c =>
      simp only [runUntil, runFuel_recast, state, limit]
      rfl
  | resume =>
    simp only [execute, resume, runUntil, runFuel_recast, state, limit]
    rfl
  | pause =>
    have paused : (d.recast f g).pause = d.pause.recast f g := by
      unfold pause
      rw [state]
      split
      · rfl
      · rfl
    simp only [execute, paused, state]
    rfl
  | reset => rfl
  | evaluate expression =>
    simp only [execute, evaluate_recast, state]
    rfl
  | inspect name => rfl

theorem setRiskLevel_recast (d : Debugger) (level : RiskLevel) :
    (d.recast f g).setRiskLevel level =
      ((d.setRiskLevel level).1, (d.setRiskLevel level).2.recast f g) := by
  have blocked : ({ d.recast f g with
      options := { (d.recast f g).options with riskLevel := level } } : Debugger).isRiskBlocked =
        ({ d with options := { d.options with riskLevel := level } } : Debugger).isRiskBlocked := rfl
  unfold setRiskLevel
  dsimp only
  rw [blocked]
  split
  · rfl
  · rfl

theorem operate_recast (d : Debugger) (op : Operation) (world : σ) :
    (d.recast f g).operate h op world =
      ((d.operate h op world).1.recast f g, (d.operate h op world).2) := by
  cases op with
  | command command => simp only [operate, execute_recast]
  | breakpoint stepId enabled =>
    have program : (d.recast f g).program = d.program := rfl
    simp only [operate, setBreakpoint, program]
    cases d.program.findStep? stepId with
    | none => rfl
    | some found => rfl
  | riskLevel level => simp only [operate, setRiskLevel_recast]

end Debugger

end Stepwise
