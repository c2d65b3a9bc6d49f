import Stepwise.Proofs.Run.Gate
import Stepwise.Proofs.Run.Reads
/-!
Why a command comes to nothing: the gate refuses it, the host does not finish it, or its process
exits without success. However a step comes to the command that it tries, it fails for such a cause
or not at all, and of the steps that try none only a choice without options fails.
-/

namespace Stepwise

/-- Why a command comes to nothing under a host in a given state, if it does. -/
def Options.failure? (options : Options) (h : Host σ) (world : σ) (command : String) :
    Option StepError :=
  if options.refuses command then some (.riskBlocked (Risk.classify command))
  else
    match (h.run (options.request command) world).1 with
    | .error error => some (.aborted error)
    | .ok output => if output.success then none else some (.exited output.exitCode output.stderr)

def Step.failure? (s : Step) (options : Options) (v : Variables) (h : Host σ) (world : σ) :
    Option StepError :=
  match s.kind with
  | .choice [] => some .noOptions
  | _ => (s.template? v).bind fun template => options.failure? h world (v.fill template)

def Attempt.failure? : Attempt → Option StepError
  | blocked _ level => some (.riskBlocked level)
  | aborted _ _ error => some (.aborted error)
  | finished _ _ output _ =>
    if output.success then none else some (.exited output.exitCode output.stderr)

structure StepResult.Reports (r : StepResult) (cause : Option StepError) : Prop where
  success : r.success = cause.isNone
  error : r.error = cause.map StepError.message
  errorKind : r.errorKind = cause.map StepError.kind

theorem attempt_failure? (options : Options) (v : Variables) (template : String) (h : Host σ)
    (world : σ) : ((attempt options v template).run h world).1.failure? =
      options.failure? h world (v.fill template) := by
  unfold attempt Options.failure?
  dsimp only
  by_cases refused : options.refuses (v.fill template) = true
  · rw [if_pos refused, if_pos (by simpa [Options.refuses] using refused)]
    rfl
  · rw [if_neg refused, if_neg (by simpa [Options.refuses] using refused)]
    simp only [Plan.run, Options.request]
    cases (h.run ⟨v.fill template, options.timeoutMs, options.memoryLimit⟩ world).1 with
    | error error => rfl
    | ok output => rfl

theorem Attempt.evaluated_reports (a : Attempt) (s : Step) (v : Variables)
    (target : Option String) : (a.evaluated s v target).result.Reports a.failure? := by
  cases a with
  | blocked command level => exact ⟨rfl, rfl, rfl⟩
  | aborted command level error => exact ⟨rfl, rfl, rfl⟩
  | finished command level output time =>
    by_cases success : output.success = true
    · constructor <;> simp [evaluated, failure?, success, StepResult.ok]
    · constructor <;> simp [evaluated, failure?, success, StepResult.failed]

theorem Attempt.report_success (a : Attempt) : a.report.success = a.failure?.isNone := by
  cases a with
  | blocked command level | aborted command level error => rfl
  | finished command level output time =>
    by_cases success : output.success = true
    · simp [report, failure?, success]
    · simp [report, failure?, success]

theorem evaluate_fails (options : Options) (v : Variables) (expression : String) (h : Host σ)
    (world : σ) : ((v.evaluate options expression).run h world).1.succeeded = false ↔
      ∃ template, commandTemplate? expression = some template ∧
        (options.failure? h world (v.fill template)).isSome = true := by
  cases tried : commandTemplate? expression with
  | none =>
    obtain ⟨e, done, succeeded⟩ := v.evaluate_untried options tried
    simp [done, Plan.run, succeeded]
  | some template =>
    obtain ⟨rest, text, rfl⟩ := commandTemplate?_iff.1 tried
    have success : ((v.evaluate options expression).run h world).1.succeeded =
        (options.failure? h world (v.fill (Text.trim (String.ofList rest)))).isNone := by
      simp only [Variables.evaluate, text, Plan.run_map, Evaluation.succeeded,
        Attempt.report_success, attempt_failure?]
    simp [success]

namespace Step

variable (s : Step) (options : Options) (v : Variables)

theorem map_unwrapped (plan : Plan Evaluated) :
    plan.map (wrapOutput fun output => output) = plan := by
  cases plan with
  | done e => rfl
  | ask request answered => rfl

variable {s} {v}

/-- A step that tries a template runs it as a command step would, and may wrap the output. -/
theorem plan_tried {template : String} (tried : s.template? v = some template) :
    ∃ target wrap,
      s.plan options v = (s.runCommand options v template target).map (wrapOutput wrap) := by
  unfold template? at tried
  unfold plan
  split at tried
  · next tool text parameters target kind =>
    obtain rfl := Option.some.inj tried
    simp only [kind]
    exact ⟨target, _, (map_unwrapped _).symm⟩
  · next condition onTrue onFalse kind =>
    obtain ⟨a, branch, tried⟩ := Option.bind_eq_some_iff.1 tried
    simp only [kind, branch]
    cases a with
    | command tool text target =>
      obtain rfl : text = template := Option.some.inj tried
      exact ⟨target, _, rfl⟩
    | log message level => simp [Action.template?] at tried
  · next chosen rest kind =>
    simp only [kind]
    cases action : chosen.action with
    | command tool text target =>
      rw [action] at tried
      obtain rfl : text = template := Option.some.inj tried
      exact ⟨target, _, rfl⟩
    | log message level => simp [action, Action.template?] at tried
  · simp at tried

theorem succeeds_untried (untried : s.template? v = none) (optioned : s.kind ≠ .choice [])
    (answer : Option Answer) : s.succeeds v answer = true := by
  unfold template? at untried
  unfold succeeds
  cases kind : s.kind with
  | command tool template parameters target => simp [kind] at untried
  | conditional condition onTrue onFalse =>
    simp only [kind] at untried ⊢
    cases branch : (if condition.holds v = true then onTrue else onFalse) with
    | none => rfl
    | some a =>
      cases a with
      | command tool template target => simp [branch, Action.template?] at untried
      | log message level => rfl
  | choice choices =>
    cases choices with
    | nil => exact absurd kind optioned
    | cons chosen rest =>
      simp only [kind] at untried ⊢
      cases action : chosen.action with
      | command tool template target => simp [action, Action.template?] at untried
      | log message level => rfl
  | assignment target value name => rfl
  | analysis input extract => rfl
  | note level message => rfl

theorem failure?_tried {h : Host σ} {world : σ} (optioned : s.kind ≠ .choice []) :
    s.failure? options v h world =
      (s.template? v).bind fun template => options.failure? h world (v.fill template) := by
  unfold failure?
  split
  · next kind => exact absurd kind optioned
  · rfl

variable (s) (v)

/-- What a step reports is told by the gate and by the host's answer to the command it tries. -/
theorem plan_reports (h : Host σ) (world : σ) :
    ((s.plan options v).run h world).1.result.Reports (s.failure? options v h world) := by
  by_cases optionless : s.kind = .choice []
  · simp only [plan, failure?, optionless]
    exact ⟨rfl, rfl, rfl⟩
  · rw [failure?_tried options optionless]
    cases tried : s.template? v with
    | some template =>
      obtain ⟨target, wrap, plan⟩ := plan_tried options tried
      have reports := ((attempt options v template).run h world).1.evaluated_reports s v target
      rw [attempt_failure?] at reports
      rw [plan, Plan.run_map, runCommand, Plan.run_map]
      exact ⟨reports.success, reports.error, reports.errorKind⟩
    | none =>
      have outcome := Eq.refl ((s.plan options v).run h world)
      have success := ((plan_tells s options v).outcome outcome).success
      rw [succeeds_untried tried optionless] at success
      obtain ⟨error, errorKind⟩ := ((plan_fits s options v).outcome outcome).succeeded success
      exact ⟨success, error, errorKind⟩

end Step

end Stepwise
