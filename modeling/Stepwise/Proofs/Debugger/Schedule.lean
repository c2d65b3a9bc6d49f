import Stepwise.Proofs.Program.WellFormed
import Stepwise.Proofs.Debugger.Operation
import Stepwise.Proofs.Run.Untimed
/-!
Which stepping commands an operator gives, and when, does not matter. Without clock and breakpoints
stepping over is a function of the run, every other command that is not a reset leaves the run as it
is, and so any two sequences of commands go along one line of states.
-/

namespace Stepwise

def RunState.bare (s : RunState) (marks : Names) : RunState :=
  { s.untimed with breakpoints := marks }

/-- Whether an operation neither takes a run back to its start nor changes what it may do. -/
def Operation.onward : Operation → Bool
  | .command .reset | .riskLevel _ => false
  | _ => true

namespace Debugger

variable {σ : Type} {h : Host σ} {answer : Request → Reply}

def bare (d : Debugger) (marks : Names) : Debugger := { d with state := d.state.bare marks }

theorem evaluated_bare (d : Debugger) (e : Evaluated) (span : Span) (marks : Names) :
    (d.evaluated e span).bare marks = (d.bare marks).evaluated e.untimed .none := by
  simp only [bare, RunState.bare, RunState.untimed, evaluated, List.map_append, List.map_singleton,
    entry_untimed]
  rfl

theorem advance_bare (d : Debugger) (c : Cursor) (marks : Names) :
    (d.advance c).bare marks = (d.bare marks).advance c := rfl

theorem fail_bare (d : Debugger) (stepId : String) (cause : StepError) (time : Timestamp)
    (marks : Names) :
    (d.fail stepId cause time).bare marks = (d.bare marks).fail stepId cause .origin := by
  simp only [bare, RunState.bare, RunState.untimed, Debugger.fail, RunState.fail, Option.map_some,
    Failure.untimed]

theorem evaluateAt_bare (answers : h.Answers answer) (marks : Names) (d : Debugger) (c : Cursor)
    (step : Step) (world : σ) :
    ((d.evaluateAt h c step world).1.1, (d.evaluateAt h c step world).1.2.bare marks) =
      ((d.bare marks).evaluateAt (.ofAnswers answer) c step ()).1 := by
  have same : ((step.plan d.options d.state.vars).run h world).1.untimed =
      ((step.plan (d.bare marks).options (d.bare marks).state.vars).run (.ofAnswers answer) ()).1 :=
    (step.plan_agree d.options d.state.vars).run answers world
  rcases left : (step.plan d.options d.state.vars).run h world with ⟨e, after⟩
  rcases right : (step.plan (d.bare marks).options (d.bare marks).state.vars).run
    (.ofAnswers answer) () with ⟨e', _⟩
  rw [left, right] at same
  dsimp only at same
  subst same
  by_cases success : e.result.success = true
  · rw [evaluateAt_succeeds h left success, evaluateAt_succeeds (.ofAnswers answer) right success,
      advance_bare, evaluated_bare, Host.span_ofAnswers]
    rfl
  · have failure : e.result.success = false := by simpa using success
    have fits := (plan_fits step d.options d.state.vars).outcome left
    obtain ⟨-, cause, -, error, kind⟩ := fits.failed failure
    rw [evaluateAt_fails h left failure c error kind,
      evaluateAt_fails (.ofAnswers answer) right failure c error kind, fail_bare, evaluated_bare,
      Host.span_ofAnswers]
    rfl

theorem stepOver_bare (answers : h.Answers answer) (marks : Names) (d : Debugger) (world : σ) :
    ((d.stepOver h world).1.1, (d.stepOver h world).1.2.bare marks) =
      ((d.bare marks).stepOver (.ofAnswers answer) ()).1 := by
  have status : (d.bare marks).state.status = d.state.status := rfl
  have current : (d.bare marks).state.current = d.state.current := rfl
  have limit : (d.bare marks).maxSteps = d.maxSteps := rfl
  have count : (d.bare marks).state.stepsExecuted = d.state.stepsExecuted := rfl
  have program : (d.bare marks).program = d.program := rfl
  simp only [stepOver, status, current, limit, count, program]
  split
  · rfl
  · cases d.state.current with
    | none => rfl
    | some c =>
      dsimp only
      split
      · rfl
      · cases c.step? d.program with
        | none => rfl
        | some step =>
          have same := evaluateAt_bare answers marks d c step world
          rcases left : d.evaluateAt h c step world with ⟨⟨result, next⟩, after⟩
          rw [left] at same
          simp only [left, ← same]

theorem stepMany_bare (answers : h.Answers answer) (marks : Names) (n : Nat) (d : Debugger)
    (world : σ) :
    (d.stepMany h n world).1.bare marks = ((d.bare marks).stepMany (.ofAnswers answer) n ()).1 := by
  induction n generalizing d world with
  | zero => rfl
  | succ n ih =>
    have step := congrArg (·.2) (stepOver_bare answers marks d world)
    rw [stepMany_succ, ih, stepMany_succ]
    exact congrArg (fun next => (stepMany (.ofAnswers answer) n next ()).1) step

variable (h)

theorem notRunning_kept : Kept h fun d _ => d.state.status ≠ .running where
  stepOver {d world} quiet := (stepOver_cases h d world).notRunning quiet
  pause quiet := by rwa [pause_eq quiet]
  reset _ := by simp [Debugger.reset, RunState.initial]
  evaluate _ quiet := quiet
  breakpoint quiet set := by
    obtain ⟨-, rfl⟩ := setBreakpoint_ok set
    exact quiet
  riskLevel {d _} level quiet := by
    rcases setRiskLevel_cases d level with ⟨-, -, -, set⟩ | ⟨-, set⟩
    · simp [set, lifted]
    · rw [set]
      exact quiet
  wait quiet := quiet

variable {h}

/-- An operation takes a run on by some number of steps, or leaves it but for its breakpoints. -/
theorem Operates.bare (answers : h.Answers answer) (marks : Names) {op : Operation}
    {d next : Debugger} {world after : σ} (done : Operates h d world op next after)
    (onward : op.onward = true) (quiet : d.state.status ≠ .running) :
    ∃ n, next.bare marks = ((d.bare marks).stepMany (.ofAnswers answer) n ()).1 := by
  cases done with
  | @steps command n => exact ⟨n, stepMany_bare answers marks n d world⟩
  | pauses => exact ⟨0, by rw [pause_eq quiet]; rfl⟩
  | resets | level => simp [Operation.onward] at onward
  | evaluates | inspects | refuses => exact ⟨0, rfl⟩
  | marks set =>
    obtain ⟨-, rfl⟩ := setBreakpoint_ok set
    exact ⟨0, rfl⟩

theorem operateAll_bare (answers : h.Answers answer) (marks : Names) {ops : List Operation}
    (onward : ∀ op ∈ ops, op.onward = true) {d : Debugger} (quiet : d.state.status ≠ .running)
    (world : σ) :
    ∃ n, (d.operateAll h ops world).1.bare marks =
      ((d.bare marks).stepMany (.ofAnswers answer) n ()).1 := by
  induction ops generalizing d world with
  | nil => exact ⟨0, rfl⟩
  | cons op rest ih =>
    have done := operate_cases h op d world
    obtain ⟨m, first⟩ := done.bare answers marks (onward op (by simp)) quiet
    obtain ⟨n, later⟩ := ih (fun op member => onward op (by simp [member]))
      ((notRunning_kept h).operates quiet done) (h.wait (d.operate h op world).2)
    exact ⟨m + n, by rw [operateAll, later, first, stepMany_add]⟩

theorem stepMany_final_unique {m n : Nat} {d : Debugger} {world : σ}
    (final : (d.stepMany h m world).1.state.status.isFinal = true)
    (final' : (d.stepMany h n world).1.state.status.isFinal = true) :
    d.stepMany h m world = d.stepMany h n world := by
  rcases Nat.le_total m n with le | le
  · obtain ⟨more, rfl⟩ := Nat.exists_eq_add_of_le le
    rw [stepMany_add, stepMany_final h more final]
  · obtain ⟨more, rfl⟩ := Nat.exists_eq_add_of_le le
    rw [stepMany_add, stepMany_final h more final']

end Debugger

/-- What two runs of a program, under any two schedules, have in common: one has evaluated what the
other has, and perhaps more; and they end alike. Times and breakpoints are their own. -/
theorem schedules_agree {σ τ : Type} {first : Host σ} {second : Host τ}
    {answer : Request → Reply} (answers : first.Answers answer) (answers' : second.Answers answer)
    (p : Program) (analysis : Option Analysis) (options : Options) (maxSteps : Nat)
    {ops ops' : List Operation} (onward : ∀ op ∈ ops, op.onward = true)
    (onward' : ∀ op ∈ ops', op.onward = true) (world : σ) (world' : τ) :
    let s := ((Debugger.start p analysis options maxSteps).operateAll first ops world).1.state
    let s' := ((Debugger.start p analysis options maxSteps).operateAll second ops' world').1.state
    (s.untimed.history <+: s'.untimed.history ∨ s'.untimed.history <+: s.untimed.history) ∧
      (s.status.isFinal = true → s'.status.isFinal = true → s.bare ∅ = s'.bare ∅) := by
  intro s s'
  have quiet : (Debugger.start p analysis options maxSteps).state.status ≠ .running := by
    simp [Debugger.start, RunState.initial]
  obtain ⟨m, along⟩ := Debugger.operateAll_bare answers ∅ onward quiet world
  obtain ⟨n, along'⟩ := Debugger.operateAll_bare answers' ∅ onward' quiet world'
  have state : s.bare ∅ = _ := congrArg Debugger.state along
  have state' : s'.bare ∅ = _ := congrArg Debugger.state along'
  constructor
  · change (s.bare ∅).history <+: (s'.bare ∅).history ∨ (s'.bare ∅).history <+: (s.bare ∅).history
    rw [state, state']
    exact (Nat.le_total m n).imp (Debugger.history_of_le _ · _ _)
      (Debugger.history_of_le _ · _ _)
  · intro final final'
    change (s.bare ∅).status.isFinal = true at final
    change (s'.bare ∅).status.isFinal = true at final'
    rw [state] at final
    rw [state'] at final'
    rw [state, state', Debugger.stepMany_final_unique final final']

theorem greeting_schedules :
    let s := ((Debugger.start .greeting none Options.standard 5).operateAll .echoing
      [.command .resume] 0).1.state
    let s' := ((Debugger.start .greeting none Options.standard 5).operateAll (.ofAnswers echo)
      [.breakpoint "act" true, .command .stepOut, .command (.evaluate "!echo $said"),
        .command .pause, .command .resume] ()).1.state
    (s.untimed.history <+: s'.untimed.history ∨ s'.untimed.history <+: s.untimed.history) ∧
      s.bare ∅ = s'.bare ∅ := by
  have answers : Host.echoing.Answers echo := fun _ _ => rfl
  have answers' : (Host.ofAnswers echo).Answers echo := fun _ _ => rfl
  have onward : ∀ op ∈ [Operation.command .resume], op.onward = true := by decide
  have onward' : ∀ op ∈ [Operation.breakpoint "act" true, .command .stepOut,
      .command (.evaluate "!echo $said"), .command .pause, .command .resume],
      op.onward = true := by decide
  obtain ⟨ahead, same⟩ := schedules_agree answers answers' .greeting none Options.standard 5
    onward onward' 0 ()
  exact ⟨ahead, same (by decide +kernel) (by decide +kernel)⟩

end Stepwise
