import Stepwise.Debugger.Basic
import Stepwise.Proofs.Run.Evaluation
/-!
What an operator can do with a run: commands, breakpoints and changes of the risk level, in any
order and against any host. All that stepping over can do is said once, in `StepOver`, and all that
an operation can do in `Operates`, where every stepping command is stepping over a number of times;
so a property of runs is kept by every operation as soon as it is kept by stepping over and by what
changes a run directly.
-/

namespace Stepwise

inductive Operation where
  | command (command : DebugCommand)
  | breakpoint (stepId : String) (enabled : Bool)
  | riskLevel (level : RiskLevel)
  deriving DecidableEq, Repr

namespace Debugger

variable {σ : Type} (h : Host σ)

/-- Does one operation. A breakpoint that is refused changes nothing. -/
def operate (d : Debugger) (op : Operation) (world : σ) : Debugger × σ :=
  match op with
  | .command c => ((d.execute h c world).1.2, (d.execute h c world).2)
  | .breakpoint stepId enabled =>
    match d.setBreakpoint stepId enabled with
    | .ok changed => (changed, world)
    | .error _ => (d, world)
  | .riskLevel level => ((d.setRiskLevel level).2, world)

def operateAll : List Operation → Debugger → σ → Debugger × σ
  | [], d, world => (d, world)
  | op :: rest, d, world =>
    operateAll rest (d.operate h op world).1 (h.wait (d.operate h op world).2)

def stepMany : Nat → Debugger → σ → Debugger × σ
  | 0, d, world => (d, world)
  | n + 1, d, world => stepMany n (d.stepOver h world).1.2 (d.stepOver h world).2

/-- A run that has written down one more evaluation, and has not gone on from there. -/
def evaluated (d : Debugger) (e : Evaluated) (span : Span) : Debugger :=
  { d with
    state := { d.state with
      status := .running
      vars := e.vars
      history := d.state.history ++ [e.result.entry span] } }

theorem evaluateAt_result (d : Debugger) (c : Cursor) (step : Step) (world : σ) :
    (d.evaluateAt h c step world).1.1 =
      ((step.plan d.options d.state.vars).run h world).1.result := by
  rcases outcome : (step.plan d.options d.state.vars).run h world with ⟨e, after⟩
  simp only [evaluateAt, RunState.evaluate, outcome]
  cases e.result.success with
  | true => rfl
  | false => rfl

theorem evaluateAt_succeeds {d : Debugger} {step : Step} {e : Evaluated} {world after : σ}
    (outcome : (step.plan d.options d.state.vars).run h world = (e, after))
    (success : e.result.success = true) (c : Cursor) :
    d.evaluateAt h c step world =
      ((e.result, (d.evaluated e (h.span world (h.wait after))).advance c),
        h.wait (h.wait after)) := by
  simp only [evaluateAt, RunState.evaluate, outcome, if_pos success]
  rfl

theorem evaluateAt_fails {d : Debugger} {step : Step} {e : Evaluated} {world after : σ}
    (outcome : (step.plan d.options d.state.vars).run h world = (e, after))
    (failure : e.result.success = false) (c : Cursor) {cause : StepError}
    (error : e.result.error = some cause.message) (kind : e.result.errorKind = some cause.kind) :
    d.evaluateAt h c step world =
      ((e.result, (d.evaluated e (h.span world (h.wait after))).fail step.id cause
          (h.now (h.wait (h.wait after)))),
        h.wait (h.wait after)) := by
  simp only [evaluateAt, RunState.evaluate, outcome, failure, error, kind]
  rfl

structure Evaluates (d : Debugger) (world : σ) (c : Cursor) (step : Step) (e : Evaluated)
    (after : σ) : Prop where
  live : d.state.status.isFinal = false
  current : d.state.current = some c
  left : d.state.stepsExecuted < d.maxSteps
  found : c.step? d.program = some step
  outcome : (step.plan d.options d.state.vars).run h world = (e, after)
  fits : e.Fits step d.state.vars

theorem Evaluates.stepOver {d : Debugger} {world after : σ} {c : Cursor} {step : Step}
    {e : Evaluated} (evaluates : Evaluates h d world c step e after) :
    d.stepOver h world = ((some (d.evaluateAt h c step world).1.1,
      (d.evaluateAt h c step world).1.2), (d.evaluateAt h c step world).2) := by
  have left := Nat.not_le.2 evaluates.left
  simp only [Debugger.stepOver, evaluates.live, evaluates.current, left, evaluates.found,
    Bool.false_eq_true, if_false]

inductive StepOver (d : Debugger) (world : σ) : Option StepResult → Debugger → σ → Prop
  | stands (final : d.state.status.isFinal = true) : StepOver d world none d world
  | ends (live : d.state.status.isFinal = false) (current : d.state.current = none) :
      StepOver d world none { d with state := { d.state with status := .completed } } world
  | limited {c : Cursor} (live : d.state.status.isFinal = false)
      (current : d.state.current = some c) (spent : d.maxSteps ≤ d.state.stepsExecuted) :
      StepOver d world none (d.fail c.stepId (.stepLimit d.maxSteps) (h.now world)) world
  | lost {c : Cursor} (live : d.state.status.isFinal = false)
      (current : d.state.current = some c) (unknown : c.step? d.program = none) :
      StepOver d world none (d.fail c.stepId (.unknownStep c.stepId) (h.now world)) world
  | succeeds {c : Cursor} {step : Step} {e : Evaluated} {after : σ}
      (evaluates : Evaluates h d world c step e after) (success : e.result.success = true) :
      StepOver d world (some e.result)
        ((d.evaluated e (h.span world (h.wait after))).advance c) (h.wait (h.wait after))
  | fails {c : Cursor} {step : Step} {e : Evaluated} {after : σ} {cause : StepError}
      (evaluates : Evaluates h d world c step e after) (failure : e.result.success = false)
      (unchanged : e.vars = d.state.vars) (canStop : cause.CanStop step)
      (error : e.result.error = some cause.message)
      (kind : e.result.errorKind = some cause.kind) :
      StepOver d world (some e.result)
        ((d.evaluated e (h.span world (h.wait after))).fail step.id cause
          (h.now (h.wait (h.wait after))))
        (h.wait (h.wait after))

theorem stepOver_cases (d : Debugger) (world : σ) :
    StepOver h d world (d.stepOver h world).1.1 (d.stepOver h world).1.2
      (d.stepOver h world).2 := by
  unfold stepOver
  split
  · next final => exact .stands final
  · next live =>
    have live : d.state.status.isFinal = false := by simpa using live
    split
    · next current => exact .ends live current
    · next c current =>
      split
      · next spent => exact .limited live current spent
      · next left =>
        split
        · next unknown => exact .lost live current unknown
        · next step found =>
          rcases outcome : (step.plan d.options d.state.vars).run h world with ⟨e, after⟩
          have fits := (plan_fits step d.options d.state.vars).outcome outcome
          have evaluates : Evaluates h d world c step e after :=
            ⟨live, current, by omega, found, outcome, fits⟩
          by_cases success : e.result.success = true
          · rw [evaluateAt_succeeds h outcome success]
            exact .succeeds evaluates success
          · have failure : e.result.success = false := by simpa using success
            obtain ⟨unchanged, cause, canStop, error, kind⟩ := fits.failed failure
            rw [evaluateAt_fails h outcome failure c error kind]
            exact .fails evaluates failure unchanged canStop error kind

theorem stepOver_nowhere {d : Debugger} (nowhere : d.state.current = none) (world : σ) :
    (d.stepOver h world).1.1 = none := by
  simp only [stepOver, nowhere]
  split
  · rfl
  · rfl

namespace StepOver

variable {h} {d next : Debugger} {world after : σ} {result : Option StepResult}
  (moved : StepOver h d world result next after)
include moved

theorem history : d.state.history <+: next.state.history := by
  cases moved with
  | stands | ends | limited | lost => exact List.prefix_refl _
  | succeeds | fails => exact List.prefix_append _ _

theorem options : next.options = d.options := by
  cases moved with
  | stands | ends | limited | lost | succeeds | fails => rfl

theorem notRunning (quiet : d.state.status ≠ .running) : next.state.status ≠ .running := by
  cases moved with
  | stands final => exact quiet
  | ends | limited | lost | fails => simp [Debugger.fail, RunState.fail]
  | @succeeds c =>
    cases onward : c.next d.program <;> simp [Debugger.advance, Debugger.evaluated, onward]

omit moved in
theorem grows {r : StepResult} (moved : StepOver h d world (some r) next after) :
    d.state.history.length < next.state.history.length := by
  cases moved with
  | succeeds | fails => simp [Debugger.advance, Debugger.fail, RunState.fail, evaluated]

end StepOver

theorem stepMany_succ (n : Nat) (d : Debugger) (world : σ) :
    stepMany h (n + 1) d world =
      stepMany h n (d.stepOver h world).1.2 (d.stepOver h world).2 := rfl

theorem stepMany_add (m n : Nat) (d : Debugger) (world : σ) :
    d.stepMany h (m + n) world =
      (d.stepMany h m world).1.stepMany h n (d.stepMany h m world).2 := by
  induction m generalizing d world with
  | zero => rw [Nat.zero_add]; rfl
  | succ m ih => rw [Nat.add_right_comm, stepMany_succ, ih, stepMany_succ]

theorem stepMany_final (n : Nat) {d : Debugger} (final : d.state.status.isFinal = true)
    (world : σ) : d.stepMany h n world = (d, world) := by
  induction n with
  | zero => rfl
  | succ n ih =>
    have stands : d.stepOver h world = ((none, d), world) := by rw [stepOver, if_pos final]
    rw [stepMany_succ, stands, ih]

theorem history_stepMany (n : Nat) (d : Debugger) (world : σ) :
    d.state.history <+: (d.stepMany h n world).1.state.history := by
  induction n generalizing d world with
  | zero => exact List.prefix_refl _
  | succ n ih => exact (stepOver_cases h d world).history.trans (ih _ _)

theorem history_of_le {m n : Nat} (le : m ≤ n) (d : Debugger) (world : σ) :
    (d.stepMany h m world).1.state.history <+: (d.stepMany h n world).1.state.history := by
  obtain ⟨more, rfl⟩ := Nat.exists_eq_add_of_le le
  rw [stepMany_add]
  exact history_stepMany h more _ _

theorem options_stepMany (n : Nat) (d : Debugger) (world : σ) :
    (d.stepMany h n world).1.options = d.options := by
  induction n generalizing d world with
  | zero => rfl
  | succ n ih => exact (ih _ _).trans (stepOver_cases h d world).options

def resultAfter (d : Debugger) (n : Nat) (world : σ) : Option StepResult :=
  ((d.stepMany h n world).1.stepOver h (d.stepMany h n world).2).1.1

theorem stepMany_last (n : Nat) (d : Debugger) (world : σ) :
    d.stepMany h (n + 1) world =
      (((d.stepMany h n world).1.stepOver h (d.stepMany h n world).2).1.2,
        ((d.stepMany h n world).1.stepOver h (d.stepMany h n world).2).2) := by
  rw [stepMany_add]
  rfl

/-- Stepping over a number of times evaluates a step each time, save that nothing may be found to
evaluate in the end. -/
def Counts (d : Debugger) (world : σ) (count n : Nat) : Prop :=
  n = count ∨ n = count + 1 ∧ d.resultAfter h count world = none

theorem runFuel_counts (stop : RunState → Bool) (fuel : Nat) (d : Debugger) (world : σ) :
    ∃ n, stepMany h n d world =
        ((runFuel h stop fuel d world).1.2, (runFuel h stop fuel d world).2) ∧
      d.Counts h world (runFuel h stop fuel d world).1.1.2 n := by
  induction fuel generalizing d world with
  | zero => exact ⟨0, rfl, .inl rfl⟩
  | succ fuel ih =>
    rcases stepped : d.stepOver h world with ⟨⟨result, next⟩, after⟩
    cases result with
    | none =>
      have nothing : d.resultAfter h 0 world = none := by simp [resultAfter, stepMany, stepped]
      exact ⟨1, by simp [stepMany, runFuel, stepped],
        .inr ⟨by simp [runFuel, stepped], by simpa [runFuel, stepped] using nothing⟩⟩
    | some result =>
      by_cases halted : halts stop next.state result = true
      · exact ⟨1, by simp [stepMany, runFuel, stepped, halted],
          .inl (by simp [runFuel, stepped, halted])⟩
      · obtain ⟨n, steps, counts⟩ := ih next after
        refine ⟨n + 1, by simp [stepMany, runFuel, stepped, halted, steps], ?_⟩
        have more : (runFuel h stop (fuel + 1) d world).1.1.2 =
            (runFuel h stop fuel next after).1.1.2 + 1 := by simp [runFuel, stepped, halted]
        rw [more]
        refine counts.imp (congrArg (· + 1)) fun ⟨total, nothing⟩ => ⟨congrArg (· + 1) total, ?_⟩
        simpa [resultAfter, stepMany_succ, stepped] using nothing

/-- Every stepping command steps over a number of times, and tells how many steps it evaluated. -/
theorem execute_counts {command : DebugCommand} (stepping : command.isStepping = true)
    (d : Debugger) (world : σ) :
    ∃ n, stepMany h n d world = d.operate h (.command command) world ∧
      d.Counts h world (d.execute h command world).1.1.stepsRun n := by
  have once : d.Counts h world (if (d.stepOver h world).1.1.isSome then 1 else 0) 1 := by
    cases result : (d.stepOver h world).1.1 with
    | none => exact .inr ⟨rfl, result⟩
    | some r => exact .inl rfl
  cases command with
  | stepOver => exact ⟨1, rfl, once⟩
  | stepInto => exact ⟨1, rfl, once⟩
  | resume =>
    obtain ⟨n, steps, counts⟩ :=
      runFuel_counts h (fun _ => false) (d.maxSteps - d.state.stepsExecuted + 1) d world
    exact ⟨n, by simp [steps, operate, execute, resume, runUntil], counts⟩
  | stepOut =>
    cases current : d.state.current with
    | none =>
      have nothing : d.resultAfter h 0 world = none := stepOver_nowhere h current world
      exact ⟨1, by simp [stepMany, operate, execute, stepOut, current],
        .inr ⟨by simp [execute, stepOut, current, outcome],
          by simpa [execute, stepOut, current, outcome] using nothing⟩⟩
    | some c =>
      obtain ⟨n, steps, counts⟩ :=
        runFuel_counts h (hasLeft c.orderIndex) (d.maxSteps - d.state.stepsExecuted + 1) d world
      exact ⟨n, by simp [steps, operate, execute, stepOut, current, runUntil],
        by simpa [execute, stepOut, current, runUntil, outcome] using counts⟩
  | pause => simp [DebugCommand.isStepping] at stepping
  | reset => simp [DebugCommand.isStepping] at stepping
  | evaluate expression => simp [DebugCommand.isStepping] at stepping
  | inspect name => simp [DebugCommand.isStepping] at stepping

theorem execute_steps {command : DebugCommand} (stepping : command.isStepping = true)
    (d : Debugger) (world : σ) :
    ∃ n, stepMany h n d world = d.operate h (.command command) world :=
  (execute_counts h stepping d world).imp fun _ => And.left

theorem execute_state (d : Debugger) (command : DebugCommand) (world : σ) :
    (d.execute h command world).1.1.state = (d.execute h command world).1.2.state := by
  cases command with
  | _ => rfl

theorem reset_eq_start (d : Debugger) :
    d.reset = .start d.program d.analysis d.options d.maxSteps := rfl

theorem pause_eq {d : Debugger} (quiet : d.state.status ≠ .running) : d.pause = d := if_neg quiet

/-- To pause is to change the status at most, and never to or from an error. -/
theorem pause_state (d : Debugger) : ∃ status,
    d.pause = { d with state := { d.state with status } } ∧
      (status = .error ↔ d.state.status = .error) := by
  unfold pause
  split
  · next running => exact ⟨.paused, rfl, by simp [running]⟩
  · exact ⟨d.state.status, rfl, Iff.rfl⟩

def atLevel (d : Debugger) (level : RiskLevel) : Debugger :=
  { d with options := { d.options with riskLevel := level } }

def lifted (d : Debugger) : Debugger :=
  { d with state := { d.state with failure := none, status := .paused } }

theorem isRiskBlocked_iff (d : Debugger) : d.isRiskBlocked = true ↔
    d.state.status = .error ∧ ∃ f, d.state.failure = some f ∧ f.kind = .riskBlocked := by
  simp [isRiskBlocked]

theorem not_blocked {d : Debugger} (clean : d.state.failure = none) : d.isRiskBlocked = false := by
  simp [isRiskBlocked, clean]

theorem setRiskLevel_cases (d : Debugger) (level : RiskLevel) :
    (d.state.status = .error ∧ (∃ f, d.state.failure = some f ∧ f.kind = .riskBlocked) ∧
        level ≠ .low ∧ d.setRiskLevel level = (true, (d.atLevel level).lifted)) ∨
      ((d.isRiskBlocked = true → level = .low) ∧
        d.setRiskLevel level = (false, d.atLevel level)) := by
  by_cases lifting : d.isRiskBlocked = true ∧ level ≠ .low
  · refine .inl ?_
    obtain ⟨blocked, raised⟩ := lifting
    have set : d.setRiskLevel level = (true, (d.atLevel level).lifted) := if_pos ⟨blocked, raised⟩
    obtain ⟨error, failure⟩ := d.isRiskBlocked_iff.1 blocked
    exact ⟨error, failure, raised, set⟩
  · exact .inr ⟨fun blocked => Decidable.by_contra fun raised => lifting ⟨blocked, raised⟩,
      if_neg lifting⟩

theorem setRiskLevel_state (d : Debugger) (level : RiskLevel) : ∃ status failure,
    (d.setRiskLevel level).2 =
      { d.atLevel level with state := { d.state with status, failure } } := by
  rcases setRiskLevel_cases d level with ⟨-, -, -, set⟩ | ⟨-, set⟩
  · exact ⟨_, _, congrArg Prod.snd set⟩
  · exact ⟨_, _, congrArg Prod.snd set⟩

def marked (d : Debugger) (marks : Names) : Debugger :=
  { d with state := { d.state with breakpoints := marks } }

theorem setBreakpoint_ok {d changed : Debugger} {stepId : String} {enabled : Bool}
    (set : d.setBreakpoint stepId enabled = .ok changed) :
    (d.program.findStep? stepId).isSome = true ∧
      changed = d.marked (if enabled then Names.insert d.state.breakpoints stepId
        else d.state.breakpoints.erase stepId) := by
  unfold setBreakpoint at set
  split at set
  · simp at set
  · next found => exact ⟨by simp [found], (Except.ok.inj set).symm⟩

inductive Operates (d : Debugger) (world : σ) : Operation → Debugger → σ → Prop
  | steps {command : DebugCommand} {n : Nat} (stepping : command.isStepping = true)
      (counts : d.Counts h world (d.execute h command world).1.1.stepsRun n) :
      Operates d world (.command command) (d.stepMany h n world).1 (d.stepMany h n world).2
  | pauses : Operates d world (.command .pause) d.pause world
  | resets : Operates d world (.command .reset) d.reset world
  | evaluates (expression : String) : Operates d world (.command (.evaluate expression)) d
      ((d.state.vars.evaluate d.options expression).run h world).2
  | inspects (name : String) : Operates d world (.command (.inspect name)) d world
  | marks {stepId : String} {enabled : Bool} {changed : Debugger}
      (set : d.setBreakpoint stepId enabled = .ok changed) :
      Operates d world (.breakpoint stepId enabled) changed world
  | refuses (stepId : String) (enabled : Bool) :
      Operates d world (.breakpoint stepId enabled) d world
  | level (level : RiskLevel) : Operates d world (.riskLevel level) (d.setRiskLevel level).2 world

theorem operate_cases (op : Operation) (d : Debugger) (world : σ) :
    Operates h d world op (d.operate h op world).1 (d.operate h op world).2 := by
  cases op with
  | command command =>
    by_cases stepping : command.isStepping = true
    · obtain ⟨n, steps, counts⟩ := execute_counts h stepping d world
      rw [← steps]
      exact .steps stepping counts
    · cases command with
      | stepOver | stepInto | stepOut | resume => simp [DebugCommand.isStepping] at stepping
      | pause => exact .pauses
      | reset => exact .resets
      | evaluate expression => exact .evaluates expression
      | inspect name => exact .inspects name
  | breakpoint stepId enabled =>
    unfold operate
    dsimp only
    split
    · next changed set => exact .marks set
    · exact .refuses stepId enabled
  | riskLevel level => exact .level level

/-- A property of a run and its surroundings that nothing an operator can do ends. -/
structure Kept (P : Debugger → σ → Prop) : Prop where
  stepOver {d world} : P d world → P (d.stepOver h world).1.2 (d.stepOver h world).2
  pause {d world} : P d world → P d.pause world
  reset {d world} : P d world → P d.reset world
  evaluate {d world} (expression : String) : P d world →
    P d ((d.state.vars.evaluate d.options expression).run h world).2
  breakpoint {d changed world} {stepId : String} {enabled : Bool} : P d world →
    d.setBreakpoint stepId enabled = .ok changed → P changed world
  riskLevel {d world} (level : RiskLevel) : P d world → P (d.setRiskLevel level).2 world
  wait {d world} : P d world → P d (h.wait world)

section

variable {h} {P : Debugger → σ → Prop} (kept : Kept h P)
include kept

theorem Kept.stepMany (n : Nat) {d : Debugger} {world : σ} (holds : P d world) :
    P (d.stepMany h n world).1 (d.stepMany h n world).2 := by
  induction n generalizing d world with
  | zero => exact holds
  | succ n ih => exact ih (kept.stepOver holds)

theorem Kept.operates {op : Operation} {d next : Debugger} {world after : σ} (holds : P d world)
    (done : Operates h d world op next after) : P next after := by
  cases done with
  | steps => exact kept.stepMany _ holds
  | pauses => exact kept.pause holds
  | resets => exact kept.reset holds
  | evaluates expression => exact kept.evaluate expression holds
  | inspects | refuses => exact holds
  | marks set => exact kept.breakpoint holds set
  | level level => exact kept.riskLevel level holds

theorem Kept.operateAll (ops : List Operation) {d : Debugger} {world : σ} (holds : P d world) :
    P (operateAll h ops d world).1 (operateAll h ops d world).2 := by
  induction ops generalizing d world with
  | nil => exact holds
  | cons op rest ih => exact ih (kept.wait (kept.operates holds (operate_cases h op d world)))

end

end Debugger

/-- The answer of a shell that says back what follows a command's first word. -/
def echo (request : Request) : Reply :=
  .ok ⟨String.ofList ((request.command.toList.dropWhile (· != ' ')).drop 1) ++ "\n", "", some 0⟩

def Host.echoing : Host Nat where
  now tick := ⟨tick, 0⟩
  uptime tick := tick
  wait tick := tick + 1
  run request tick := (echo request, tick + 1)

end Stepwise
