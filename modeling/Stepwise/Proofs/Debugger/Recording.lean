import Stepwise.Proofs.Debugger.Operation
import Stepwise.Proofs.Run.Gate
/-!
What a run asks of its host. A host that writes down every request answers as it would have, so what
it has written down at the end of an operation are the requests that the operation makes.
-/

namespace Stepwise

/-- The same host, with a list of all that it was asked to run. -/
def Host.recording (h : Host σ) : Host (σ × List Request) where
  now world := h.now world.1
  uptime world := h.uptime world.1
  wait world := (h.wait world.1, world.2)
  run request world :=
    ((h.run request world.1).1, (h.run request world.1).2, world.2 ++ [request])

@[simp]
theorem Host.wait_recording (h : Host σ) (world : σ × List Request) :
    h.recording.wait world = (h.wait world.1, world.2) := rfl

theorem Plan.run_recording (plan : Plan α) (h : Host σ) (world : σ) (log : List Request) :
    plan.run h.recording (world, log) =
      ((plan.run h world).1, (plan.run h world).2, log ++ plan.request?.toList) := by
  cases plan with
  | done a => simp [Plan.run, request?]
  | ask request answered => rfl

namespace Debugger

def pending? (d : Debugger) : Option Step :=
  if d.state.status.isFinal = true ∨ d.maxSteps ≤ d.state.stepsExecuted then none
  else d.state.current.bind (·.step? d.program)

/-- The command template that stepping over a run tries. -/
def template? (d : Debugger) : Option String := d.pending?.bind (·.template? d.state.vars)

def asked (d : Debugger) : Option Request :=
  d.template?.bind fun t => d.options.admitted (d.state.vars.fill t)

variable {σ : Type} (h : Host σ)

def asks : Nat → Debugger → σ → List Request
  | 0, _, _ => []
  | n + 1, d, world => d.asked.toList ++ asks n (d.stepOver h world).1.2 (d.stepOver h world).2

variable {h}

theorem stepOver_idle {d : Debugger} (idle : d.pending? = none) :
    ∃ next : Timestamp → Debugger, ∀ {σ : Type} (h : Host σ) (world : σ),
      d.stepOver h world = ((none, next (h.now world)), world) := by
  unfold pending? at idle
  simp only [stepOver]
  by_cases final : d.state.status.isFinal = true
  · exact ⟨fun _ => d, fun h world => by rw [if_pos final]⟩
  · cases current : d.state.current with
    | none => exact ⟨fun _ => _, fun h world => by rw [if_neg final]⟩
    | some c =>
      by_cases spent : d.maxSteps ≤ d.state.stepsExecuted
      · exact ⟨_, fun h world => by rw [if_neg final]; exact if_pos spent⟩
      · rw [if_neg (by simp [final, spent]), current] at idle
        have unknown : c.step? d.program = none := idle
        simp only [unknown]
        exact ⟨_, fun h world => by rw [if_neg final, if_neg spent]⟩

theorem stepOver_pending {d : Debugger} {step : Step} (pending : d.pending? = some step) :
    ∃ c, d.state.current = some c ∧ c.step? d.program = some step ∧
      ∀ {σ : Type} (h : Host σ) (world : σ), d.stepOver h world =
        ((some (d.evaluateAt h c step world).1.1, (d.evaluateAt h c step world).1.2),
          (d.evaluateAt h c step world).2) := by
  unfold pending? at pending
  split at pending
  · simp at pending
  · next live =>
    obtain ⟨c, current, found⟩ := Option.bind_eq_some_iff.1 pending
    have moving : ¬ d.state.status.isFinal = true := fun final => live (.inl final)
    have left : ¬ d.maxSteps ≤ d.state.stepsExecuted := fun spent => live (.inr spent)
    refine ⟨c, current, found, fun h world => ?_⟩
    rw [stepOver, if_neg moving, current]
    dsimp only
    rw [if_neg left, found]

theorem evaluateAt_recording (d : Debugger) (c : Cursor) (step : Step) (world : σ)
    (log : List Request) :
    d.evaluateAt h.recording c step (world, log) =
      ((d.evaluateAt h c step world).1, (d.evaluateAt h c step world).2,
        log ++ (step.plan d.options d.state.vars).request?.toList) := by
  rcases outcome : (step.plan d.options d.state.vars).run h world with ⟨e, after⟩
  have recorded := (step.plan d.options d.state.vars).run_recording h world log
  rw [outcome] at recorded
  by_cases success : e.result.success = true
  · rw [evaluateAt_succeeds h outcome success, evaluateAt_succeeds h.recording recorded success]
    rfl
  · have failure : e.result.success = false := by simpa using success
    have fits := (plan_fits step d.options d.state.vars).outcome outcome
    obtain ⟨-, cause, -, error, kind⟩ := fits.failed failure
    rw [evaluateAt_fails h outcome failure c error kind,
      evaluateAt_fails h.recording recorded failure c error kind]
    rfl

theorem stepOver_recording (d : Debugger) (world : σ) (log : List Request) :
    d.stepOver h.recording (world, log) =
      ((d.stepOver h world).1, (d.stepOver h world).2, log ++ d.asked.toList) := by
  cases pending : d.pending? with
  | none =>
    have quiet : d.asked = none := by simp [asked, template?, pending]
    obtain ⟨next, stands⟩ := stepOver_idle pending
    rw [stands, stands, quiet, Option.toList_none, List.append_nil]
    rfl
  | some step =>
    obtain ⟨c, -, -, steps⟩ := stepOver_pending pending
    have request : d.asked = (step.plan d.options d.state.vars).request? := by
      rw [asked, template?, pending, Step.plan_request?]
      rfl
    rw [steps, steps, evaluateAt_recording, request]

theorem stepMany_recording (n : Nat) (d : Debugger) (world : σ) (log : List Request) :
    d.stepMany h.recording n (world, log) =
      ((d.stepMany h n world).1, (d.stepMany h n world).2, log ++ asks h n d world) := by
  induction n generalizing d world log with
  | zero => simp [stepMany, asks]
  | succ n ih =>
    rw [stepMany_succ, stepOver_recording, ih, stepMany_succ, asks, List.append_assoc]

theorem runFuel_recording (stop : RunState → Bool) (fuel : Nat) (d : Debugger) (world : σ) :
    ∃ requests, ∀ log, runFuel h.recording stop fuel d (world, log) =
      ((runFuel h stop fuel d world).1, (runFuel h stop fuel d world).2, log ++ requests) := by
  induction fuel generalizing d world with
  | zero => exact ⟨[], fun log => by simp [runFuel]⟩
  | succ fuel ih =>
    simp only [runFuel, stepOver_recording]
    rcases d.stepOver h world with ⟨⟨result, next⟩, after⟩
    cases result with
    | none => exact ⟨_, fun log => rfl⟩
    | some result =>
      by_cases halted : halts stop next.state result = true
      · simp only [if_pos halted]
        exact ⟨_, fun log => rfl⟩
      · obtain ⟨requests, same⟩ := ih next after
        simp only [if_neg halted, same]
        exact ⟨d.asked.toList ++ requests, fun log => by rw [List.append_assoc]⟩

theorem execute_recording (command : DebugCommand) (d : Debugger) (world : σ) :
    ∃ requests, ∀ log, d.execute h.recording command (world, log) =
      ((d.execute h command world).1, (d.execute h command world).2, log ++ requests) := by
  cases command with
  | stepOver | stepInto =>
    exact ⟨d.asked.toList, fun log => by simp only [execute, stepOver_recording]⟩
  | resume =>
    obtain ⟨requests, same⟩ := runFuel_recording (h := h) (fun _ => false)
      (d.maxSteps - d.state.stepsExecuted + 1) d world
    exact ⟨requests, fun log => by simp only [execute, resume, runUntil, same]⟩
  | stepOut =>
    cases current : d.state.current with
    | none =>
      refine ⟨d.asked.toList, fun log => ?_⟩
      simp only [execute, stepOut, current, stepOver_recording]
    | some c =>
      obtain ⟨requests, same⟩ := runFuel_recording (h := h) (hasLeft c.orderIndex)
        (d.maxSteps - d.state.stepsExecuted + 1) d world
      refine ⟨requests, fun log => ?_⟩
      simp only [execute, stepOut, current, runUntil, same]
  | evaluate expression =>
    refine ⟨(d.state.vars.evaluate d.options expression).request?.toList, fun log => ?_⟩
    simp only [execute, Plan.run_recording]
  | pause | reset | inspect => exact ⟨[], fun log => by simp [execute]⟩

variable (h)

def requests (d : Debugger) (op : Operation) (world : σ) : List Request :=
  (d.operate h.recording op (world, [])).2.2

variable {h}

theorem operate_recording (op : Operation) (d : Debugger) (world : σ) (log : List Request) :
    d.operate h.recording op (world, log) =
      ((d.operate h op world).1, (d.operate h op world).2, log ++ d.requests h op world) := by
  cases op with
  | command command =>
    obtain ⟨requests, same⟩ := execute_recording (h := h) command d world
    simp only [Debugger.requests, operate, same, List.nil_append]
  | breakpoint stepId enabled =>
    simp only [requests, operate]
    split
    · simp
    · simp
  | riskLevel level => simp [requests, operate]

theorem requests_steps {command : DebugCommand} (stepping : command.isStepping = true)
    (d : Debugger) (world : σ) :
    ∃ n, d.stepMany h n world = d.operate h (.command command) world ∧
      d.requests h (.command command) world = asks h n d world := by
  obtain ⟨n, steps⟩ := execute_steps h.recording stepping d (world, [])
  rw [stepMany_recording, operate_recording] at steps
  have debugger := congrArg (·.1) steps
  have after := congrArg (·.2.1) steps
  have log := congrArg (·.2.2) steps
  exact ⟨n, Prod.ext debugger after, log.symm⟩

theorem requests_evaluate (expression : String) (d : Debugger) (world : σ) :
    d.requests h (.command (.evaluate expression)) world =
      ((commandTemplate? expression).bind fun t =>
        d.options.admitted (d.state.vars.fill t)).toList := by
  rw [← Variables.evaluate_request?]
  simp only [requests, operate, execute, Plan.run_recording, List.nil_append]

end Debugger

end Stepwise
