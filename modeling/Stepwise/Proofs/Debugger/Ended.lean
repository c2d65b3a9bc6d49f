import Stepwise.Proofs.Debugger.Operation
import Stepwise.Proofs.Program.WellFormed
/-!
Runs that have ended. Whatever an operator does but reset it, such a run keeps its state, where its
breakpoints aside, and stepping it evaluates nothing. Only an error for risk can also be left by a
change of the level.
-/

namespace Stepwise

namespace Debugger

def Stirs (d : Debugger) (op : Operation) : Prop :=
  op = .command .reset ∨ ∃ level, op = .riskLevel level ∧ level ≠ .low ∧ d.isRiskBlocked = true

def readjusted (d : Debugger) (marks : Names) (options : Options) : Debugger :=
  { d.marked marks with options }

variable {σ : Type} {h : Host σ} {d : Debugger}

theorem runUntil_final (final : d.state.status.isFinal = true) (stop : RunState → Bool)
    (world : σ) : d.runUntil h stop world = (((none, 0), d), world) := by
  simp [runUntil, runFuel, stepOver, final]

theorem stepOut_final (final : d.state.status.isFinal = true) (world : σ) :
    d.stepOut h world = (((none, 0), d), world) := by
  unfold stepOut
  split
  · exact runUntil_final final _ world
  · simp [stepOver, final]

/-- A stepping command finds nothing to evaluate, and fails just if the run is in error. -/
theorem execute_final (final : d.state.status.isFinal = true) {command : DebugCommand}
    (stepping : command.isStepping = true) (world : σ) :
    d.execute h command world =
      ((⟨d.state.status != .error, d.state, none, none, none, 0⟩, d), world) := by
  have success : d.outcome d.state.status true none 0 none none =
      ⟨d.state.status != .error, d.state, none, none, none, 0⟩ := by
    cases status : d.state.status with
    | _ => simp [outcome, status]
  cases command with
  | stepOver | stepInto => simp [execute, stepOver, final, success]
  | stepOut => simp [execute, stepOut_final final, success]
  | resume => simp [execute, resume, runUntil_final final, success]
  | pause | reset | evaluate | inspect => simp [DebugCommand.isStepping] at stepping

theorem Operates.quiet {op : Operation} {next : Debugger} {world after : σ}
    (done : Operates h d world op next after) (final : d.state.status.isFinal = true)
    (quiet : ¬ d.Stirs op) : ∃ marks options, next = d.readjusted marks options := by
  cases done with
  | steps => exact ⟨_, _, congrArg Prod.fst (stepMany_final h _ final world)⟩
  | pauses =>
    have still : d.state.status ≠ .running := fun running => by
      simp [running, Status.isFinal] at final
    exact ⟨_, _, pause_eq still⟩
  | resets => exact absurd (.inl rfl) quiet
  | evaluates | inspects | refuses => exact ⟨d.state.breakpoints, d.options, rfl⟩
  | marks set =>
    obtain ⟨-, changed⟩ := setBreakpoint_ok set
    exact ⟨next.state.breakpoints, d.options, by rw [changed]; rfl⟩
  | level level =>
    rcases setRiskLevel_cases d level with ⟨error, failure, above, -⟩ | ⟨-, set⟩
    · exact absurd (.inr ⟨level, rfl, above, d.isRiskBlocked_iff.2 ⟨error, failure⟩⟩) quiet
    · exact ⟨d.state.breakpoints, _, congrArg Prod.snd set⟩

theorem operateAll_quiet {ops : List Operation} (final : d.state.status.isFinal = true)
    (quiet : ∀ op ∈ ops, ¬ d.Stirs op) (world : σ) :
    ∃ marks options, (d.operateAll h ops world).1 = d.readjusted marks options := by
  induction ops generalizing d world with
  | nil => exact ⟨d.state.breakpoints, d.options, rfl⟩
  | cons op rest ih =>
    obtain ⟨marks, options, next⟩ :=
      (operate_cases h op d world).quiet final (quiet op List.mem_cons_self)
    rw [operateAll, next]
    exact ih (d := d.readjusted marks options) final
      (fun op later => quiet op (List.mem_cons_of_mem _ later)) _

theorem leaves_error_iff (error : d.state.status = .error) (op : Operation) (world : σ) :
    (d.operate h op world).1.state.status ≠ .error ↔ d.Stirs op := by
  constructor
  · intro left
    refine Classical.byContradiction fun quiet => left ?_
    have final : d.state.status.isFinal = true := by rw [error]; rfl
    obtain ⟨marks, options, next⟩ := (operate_cases h op d world).quiet final quiet
    rw [next]
    exact error
  · rintro (rfl | ⟨level, rfl, above, blocked⟩)
    · simp [operate, execute, outcome, reset, RunState.initial]
    · rcases setRiskLevel_cases d level with ⟨-, -, -, set⟩ | ⟨low, -⟩
      · simp [operate, set, lifted]
      · exact absurd (low blocked) above

/-- After some operations a run is as it was, breakpoints aside, and a stepping command evaluates
nothing, asks nothing of the host and changes nothing. -/
structure Stands (h : Host σ) (d : Debugger) (ops : List Operation) (world : σ) : Prop where
  state : ∃ marks, (d.operateAll h ops world).1.state = { d.state with breakpoints := marks }
  idle : ∀ command : DebugCommand, command.isStepping = true →
    let run := d.operateAll h ops world
    ∃ outcome, run.1.execute h command run.2 = ((outcome, run.1), run.2) ∧
      outcome.stepsRun = 0 ∧ outcome.stepResult = none ∧
      (outcome.success = true ↔ d.state.status = .completed)

theorem stands_of_quiet {ops : List Operation} (final : d.state.status.isFinal = true)
    (quiet : ∀ op ∈ ops, ¬ d.Stirs op) (world : σ) : Stands h d ops world := by
  obtain ⟨marks, options, now⟩ := operateAll_quiet (h := h) final quiet world
  refine ⟨⟨marks, congrArg state now⟩, fun command stepping => ?_⟩
  have final' : (d.operateAll h ops world).1.state.status.isFinal = true := by rw [now]; exact final
  refine ⟨_, execute_final final' stepping _, rfl, rfl, ?_⟩
  rw [now]
  change (d.state.status != .error) = true ↔ d.state.status = .completed
  cases status : d.state.status with
  | completed | error => simp
  | initialized | running | paused => simp [status, Status.isFinal] at final

end Debugger

/-- A run that is completed, or in an error that is not for risk, stands whatever an operator does
but reset it. One in error for risk stands until the level is set to another than low, and that
alone leaves an error besides a reset. -/
theorem ended_runs_stand {σ : Type} (h : Host σ) (d : Debugger) :
    (d.state.status = .completed ∨ d.state.status = .error ∧
        (∃ f, d.state.failure = some f ∧ (f.kind = .execution ∨ f.kind = .stepLimit)) →
      ∀ ops, .command .reset ∉ ops → ∀ world, d.Stands h ops world) ∧
    (d.state.status = .error ∧ (∃ f, d.state.failure = some f ∧ f.kind = .riskBlocked) →
      ∀ ops, .command .reset ∉ ops → (∀ level, .riskLevel level ∈ ops → level = .low) →
        ∀ world, d.Stands h ops world) ∧
    (d.state.status = .error → ∀ op world,
      ((d.operate h op world).1.state.status ≠ .error ↔ op = .command .reset ∨
        ∃ level, op = .riskLevel level ∧ level ≠ .low ∧
          ∃ f, d.state.failure = some f ∧ f.kind = .riskBlocked)) := by
  refine ⟨fun ended ops noReset world => ?_, fun ⟨error, risk⟩ ops noReset low world => ?_,
    fun error op world => ?_⟩
  · have final : d.state.status.isFinal = true := by
      rcases ended with completed | ⟨error, -⟩
      · rw [completed]; rfl
      · rw [error]; rfl
    have free : ¬ d.isRiskBlocked = true := by
      rw [Debugger.isRiskBlocked_iff]
      rintro ⟨error, f, failure, risk⟩
      rcases ended with completed | ⟨-, g, same, other⟩
      · simp [completed] at error
      · obtain rfl := Option.some.inj (failure.symm.trans same)
        simp [risk] at other
    refine Debugger.stands_of_quiet final (fun op member stirs => ?_) world
    rcases stirs with rfl | ⟨level, -, -, blocked⟩
    · exact noReset member
    · exact free blocked
  · have final : d.state.status.isFinal = true := by rw [error]; rfl
    refine Debugger.stands_of_quiet final (fun op member stirs => ?_) world
    rcases stirs with rfl | ⟨level, rfl, above, -⟩
    · exact noReset member
    · exact above (low level member)
  · rw [Debugger.leaves_error_iff error, Debugger.Stirs]
    simp only [Debugger.isRiskBlocked_iff, error, true_and]

theorem greeting_stands :
    let run level := ((Debugger.start .greeting none
      { Options.standard with riskLevel := level } 5).operateAll .echoing [.command .resume] 0).1
    let tried : List Operation := [.riskLevel .low, .command .stepOut, .breakpoint "say" true,
      .command (.evaluate "!echo $said"), .command .pause, .command .stepOver]
    (run .medium).state.status = .completed ∧ (run .medium).Stands .echoing tried 1 ∧
      (run .low).state.status = .error ∧ (run .low).Stands .echoing tried 1 ∧
      ((run .low).operate .echoing (.riskLevel .medium) 1).1.state.status ≠ .error := by
  intro run tried
  have completed : (run .medium).state.status = .completed := by decide +kernel
  obtain ⟨error, refused⟩ := (run .low).isRiskBlocked_iff.1 (by decide +kernel)
  have noReset : .command .reset ∉ tried := by decide
  have low : ∀ level, .riskLevel level ∈ tried → level = .low := by simp [tried]
  exact ⟨completed, (ended_runs_stand .echoing (run .medium)).1 (.inl completed) tried noReset 1,
    error, (ended_runs_stand .echoing (run .low)).2.1 ⟨error, refused⟩ tried noReset low 1,
    ((ended_runs_stand .echoing (run .low)).2.2 error _ 1).2 (.inr ⟨.medium, rfl, by decide,
      refused⟩)⟩

end Stepwise
