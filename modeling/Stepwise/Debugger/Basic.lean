import Stepwise.Debugger.Command
import Stepwise.Debugger.Inspect
/-!
One run under an operator's control.

A run is `initialized` until its first step, then `paused` between steps, and ends `completed` or in
`error`; it is `running` only while a step is being evaluated. A run that has ended stands until it
is reset, except that an error for risk is lifted by a higher risk level. Every stepping command
repeats `stepOver`.
-/

namespace Stepwise

structure Debugger where
  program : Program
  analysis : Option Analysis
  options : Options
  /-- How many steps may be executed with success. -/
  maxSteps : Nat
  state : RunState

structure Outcome where
  success : Bool
  state : RunState
  stepResult : Option StepResult
  evaluation : Option Evaluation
  inspection : Option Inspection
  stepsRun : Nat

namespace Debugger

def start (program : Program) (analysis : Option Analysis) (options : Options) (maxSteps : Nat) :
    Debugger :=
  ⟨program, analysis, options, maxSteps, .initial program⟩

def fail (d : Debugger) (stepId : String) (error : StepError) (time : Timestamp) : Debugger :=
  { d with state := d.state.fail stepId error.kind error.message time }

def advance (d : Debugger) (c : Cursor) : Debugger :=
  let next := c.next d.program
  { d with
    state := { d.state with
      stepsExecuted := d.state.stepsExecuted + 1
      current := next
      status := if next.isSome then .paused else .completed } }

def evaluateAt (h : Host σ) (d : Debugger) (c : Cursor) (step : Step) (world : σ) :
    (StepResult × Debugger) × σ :=
  let ((result, state), world) :=
    { d.state with status := .running }.evaluate h d.options step world
  let d := { d with state }
  if result.success then ((result, d.advance c), world)
  else
    ((result,
      { d with
        state := d.state.fail step.id (result.errorKind.getD .execution) (result.error.getD "")
          (h.now world) }), world)

/-- Evaluates the current step. There is no result where nothing was evaluated. -/
def stepOver (h : Host σ) (d : Debugger) (world : σ) : (Option StepResult × Debugger) × σ :=
  if d.state.status.isFinal then ((none, d), world)
  else
    match d.state.current with
    | none => ((none, { d with state := { d.state with status := .completed } }), world)
    | some c =>
      if d.maxSteps ≤ d.state.stepsExecuted then
        ((none, d.fail c.stepId (.stepLimit d.maxSteps) (h.now world)), world)
      else
        match c.step? d.program with
        | none => ((none, d.fail c.stepId (.unknownStep c.stepId) (h.now world)), world)
        | some step =>
          let ((result, d), world) := d.evaluateAt h c step world
          ((some result, d), world)

/-- Whether repeated stepping ends after a step: the run has ended, the step bears a breakpoint, or
the place reached is where to stop. -/
def halts (stop : RunState → Bool) (s : RunState) (result : StepResult) : Bool :=
  s.status != .paused || s.breakpoints.contains result.stepId || stop s

/-- Steps on until something halts it, and counts the steps. Each step but the last succeeds, so
there are at most as many more as the run may still execute. -/
def runFuel (h : Host σ) (stop : RunState → Bool) :
    Nat → Debugger → σ → ((Option StepResult × Nat) × Debugger) × σ
  | 0, d, world => (((none, 0), d), world)
  | fuel + 1, d, world =>
    match d.stepOver h world with
    | ((none, d), world) => (((none, 0), d), world)
    | ((some result, d), world) =>
      if halts stop d.state result then (((some result, 1), d), world)
      else
        let (((last, count), d), world) := runFuel h stop fuel d world
        (((last.or (some result), count + 1), d), world)

def runUntil (h : Host σ) (stop : RunState → Bool) (d : Debugger) (world : σ) :
    ((Option StepResult × Nat) × Debugger) × σ :=
  runFuel h stop (d.maxSteps - d.state.stepsExecuted + 1) d world

def resume (h : Host σ) (d : Debugger) (world : σ) : ((Option StepResult × Nat) × Debugger) × σ :=
  d.runUntil h (fun _ => false) world

def hasLeft (slot : Nat) (s : RunState) : Bool :=
  match s.current with
  | some c => c.orderIndex != slot
  | none => true

def stepOut (h : Host σ) (d : Debugger) (world : σ) : ((Option StepResult × Nat) × Debugger) × σ :=
  match d.state.current with
  | some c => d.runUntil h (hasLeft c.orderIndex) world
  | none =>
    let ((result, d), world) := d.stepOver h world
    (((result, 0), d), world)

def pause (d : Debugger) : Debugger :=
  if d.state.status = .running then { d with state := { d.state with status := .paused } } else d

def reset (d : Debugger) : Debugger := { d with state := .initial d.program }

def outcome (before : Status) (isStepping : Bool) (d : Debugger) (stepResult : Option StepResult)
    (stepsRun : Nat) (evaluation : Option Evaluation) (inspection : Option Inspection) : Outcome :=
  let enteredError := d.state.status = .error ∧ before ≠ .error
  let frozen := isStepping ∧ before = .error
  let success := !enteredError && !frozen && (stepResult.map (·.success)).getD true &&
    (evaluation.map (·.succeeded)).getD true
  ⟨success, d.state, stepResult, evaluation, inspection, stepsRun⟩

def execute (h : Host σ) (d : Debugger) (command : DebugCommand) (world : σ) :
    (Outcome × Debugger) × σ :=
  let before := d.state.status
  let stepped (r : ((Option StepResult × Nat) × Debugger) × σ) : (Outcome × Debugger) × σ :=
    let (((result, count), d), world) := r
    ((d.outcome before true result count none none, d), world)
  match command with
  | .stepOver | .stepInto =>
    let ((result, d), world) := d.stepOver h world
    stepped (((result, if result.isSome then 1 else 0), d), world)
  | .stepOut => stepped (d.stepOut h world)
  | .resume => stepped (d.resume h world)
  | .pause => ((d.pause.outcome before false none 0 none none, d.pause), world)
  | .reset => ((d.reset.outcome before false none 0 none none, d.reset), world)
  | .evaluate expression =>
    let (evaluation, world) := (d.state.vars.evaluate d.options expression).run h world
    ((d.outcome before false none 0 (some evaluation) none, d), world)
  | .inspect name =>
    ((d.outcome before false none 0 none (some (d.state.vars.inspect name)), d), world)

def setBreakpoint (d : Debugger) (stepId : String) (enabled : Bool) : Except Refusal Debugger :=
  match d.program.findStep? stepId with
  | none => .error (.unknownStep stepId)
  | some _ =>
    let breakpoints :=
      if enabled then Names.insert d.state.breakpoints stepId else d.state.breakpoints.erase stepId
    .ok { d with state := { d.state with breakpoints } }

def isRiskBlocked (d : Debugger) : Bool :=
  d.state.status == .error && (d.state.failure.map (·.kind)) == some .riskBlocked

/-- Changes the risk level. An error for risk is lifted unless the level is low; whether one was is
said first. -/
def setRiskLevel (d : Debugger) (level : RiskLevel) : Bool × Debugger :=
  let d := { d with options := { d.options with riskLevel := level } }
  if d.isRiskBlocked ∧ level ≠ .low then
    (true, { d with state := { d.state with failure := none, status := .paused } })
  else (false, d)

end Debugger

end Stepwise
