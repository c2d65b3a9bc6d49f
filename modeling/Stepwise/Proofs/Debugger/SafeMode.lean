import Stepwise.Proofs.Program.Places
import Stepwise.Proofs.Program.WellFormed
import Stepwise.Proofs.Debugger.Recording
/-!
Safe mode over whole runs. Every request that a run makes comes of a template that it tries at some
moment, filled in with the variables of that moment and let through by the gate at the level then in
force; and a template that the gate refuses leaves run and host as they were at that moment, save
that a run stops and that time passes.
-/

namespace Stepwise

/-- A request that a host is given, and the risk level then in force. -/
structure Call where
  level : RiskLevel
  request : Request
  deriving DecidableEq, Repr

/-- No pattern of high risk stands in the lower-case text of a command. -/
def Request.Harmless (request : Request) : Prop :=
  ∀ pattern ∈ Risk.highPatterns, ¬ pattern.toList <:+: Text.lowerChars request.command.toList

namespace Options

variable {options : Options} {command : String} {request : Request}

theorem admitted_iff : options.admitted command = some request ↔
    options.refuses command = false ∧ request = options.request command := by
  unfold admitted
  cases options.refuses command with
  | true => simp
  | false => simp [eq_comm]

theorem request_harmless (low : options.riskLevel = .low)
    (clear : options.refuses command = false) : (options.request command).Harmless := by
  intro pattern member occurs
  have high : options.refuses command = true :=
    refuses_iff.2 ⟨low, Risk.classify_high.2 ⟨pattern, member, occurs⟩⟩
  rw [clear] at high
  simp at high

end Options

namespace Debugger

variable {σ : Type} (h : Host σ)

def calls : List Operation → Debugger → σ → List Call
  | [], _, _ => []
  | op :: rest, d, world =>
    (d.requests h op world).map (⟨d.options.riskLevel, ·⟩) ++
      calls rest (d.operate h op world).1 (h.wait (d.operate h op world).2)

/-- The templates that an operation tries, and at which moments: a run, and its host. -/
inductive Tries (d : Debugger) (world : σ) : Operation → Debugger × σ → String → Prop
  | expression {expression template : String}
      (tried : commandTemplate? expression = some template) :
      Tries d world (.command (.evaluate expression)) (d, world) template
  | step {command : DebugCommand} {n more : Nat} {template : String}
      (stepping : command.isStepping = true)
      (within : d.stepMany h (n + 1 + more) world = d.operate h (.command command) world)
      (tried : (d.stepMany h n world).1.template? = some template) :
      Tries d world (.command command) (d.stepMany h n world) template

structure Stopped (m next : Debugger) : Prop where
  vars : next.state.vars = m.state.vars
  current : next.state.current = m.state.current
  status : next.state.status = .error
  failure : ∃ f c, next.state.failure = some f ∧ f.kind = .riskBlocked ∧
    next.state.current = some c ∧ f.stepId = c.stepId

variable {h}

theorem mem_asks {n : Nat} {d : Debugger} {world : σ} {request : Request} :
    request ∈ asks h n d world ↔
      ∃ k more, k + 1 + more = n ∧ (d.stepMany h k world).1.asked = some request := by
  induction n generalizing d world with
  | zero => simp [asks]
  | succ n ih =>
    rw [asks, List.mem_append, Option.mem_toList, ih]
    constructor
    · rintro (now | ⟨k, more, rfl, later⟩)
      · exact ⟨0, n, by omega, now⟩
      · exact ⟨k + 1, more, by omega, later⟩
    · rintro ⟨k, more, total, asked⟩
      cases k with
      | zero => exact .inl asked
      | succ k => exact .inr ⟨k, more, by omega, asked⟩

theorem asked_iff {d : Debugger} {request : Request} : d.asked = some request ↔
    ∃ template, d.template? = some template ∧
      d.options.refuses (d.state.vars.fill template) = false ∧
      request = d.options.request (d.state.vars.fill template) := by
  simp only [asked, Option.bind_eq_some_iff, Options.admitted_iff]

theorem stepOver_tried {d : Debugger} {template : String} (tried : d.template? = some template)
    (world : σ) :
    ∃ c step, d.state.current = some c ∧ c.step? d.program = some step ∧
      step.template? d.state.vars = some template ∧
      d.stepOver h world = ((some (d.evaluateAt h c step world).1.1,
        (d.evaluateAt h c step world).1.2), (d.evaluateAt h c step world).2) := by
  obtain ⟨step, pending, tried⟩ := Option.bind_eq_some_iff.1 tried
  obtain ⟨c, current, found, steps⟩ := stepOver_pending pending
  exact ⟨c, step, current, found, tried, steps h world⟩

theorem history_grows {d : Debugger} {template : String} (tried : d.template? = some template)
    (world : σ) : d.state.history.length < (d.stepOver h world).1.2.state.history.length := by
  obtain ⟨c, step, -, -, -, steps⟩ := stepOver_tried (h := h) tried world
  have moved := stepOver_cases h d world
  rw [steps] at moved ⊢
  exact moved.grows

theorem stepOver_refused {d : Debugger} {template : String}
    (tried : d.template? = some template)
    (refused : d.options.refuses (d.state.vars.fill template) = true) (world : σ) :
    d.Stopped (d.stepOver h world).1.2 ∧ (d.stepOver h world).2 = h.wait (h.wait world) := by
  obtain ⟨c, step, current, found, tried, steps⟩ := stepOver_tried (h := h) tried world
  have gated := step.plan_gated d.options d.state.vars tried
  generalize plan : step.plan d.options d.state.vars = asked at gated
  cases gated with
  | passed clear => simp [clear] at refused
  | @refused e high tells =>
    have outcome : (step.plan d.options d.state.vars).run h world = (e, world) := by rw [plan]; rfl
    have fits := (plan_fits step d.options d.state.vars).outcome outcome
    obtain ⟨-, cause, -, error, kind⟩ := fits.failed tells.failure
    have risk : cause.kind = .riskBlocked := Option.some.inj (kind.symm.trans tells.kind)
    rw [steps, evaluateAt_fails h outcome tells.failure c error kind]
    exact ⟨⟨tells.vars, rfl, rfl, _, c, rfl, risk, current, Cursor.step?_id found⟩, rfl⟩

theorem Tries.options {d : Debugger} {world : σ} {op : Operation} {moment : Debugger × σ}
    {template : String} (tries : Tries h d world op moment template) :
    moment.1.options = d.options := by
  cases tries with
  | expression tried => rfl
  | step stepping within tried => exact options_stepMany h _ d world

/-- The requests of an operation are those that the templates it tries come to. -/
theorem requests_iff {d : Debugger} {op : Operation} {world : σ} {request : Request} :
    request ∈ d.requests h op world ↔ ∃ moment template, Tries h d world op moment template ∧
      d.options.refuses (moment.1.state.vars.fill template) = false ∧
      request = d.options.request (moment.1.state.vars.fill template) := by
  constructor
  · intro member
    cases op with
    | command command =>
      by_cases stepping : command.isStepping = true
      · obtain ⟨n, steps, log⟩ := requests_steps (h := h) stepping d world
        rw [log, mem_asks] at member
        obtain ⟨k, more, rfl, asked⟩ := member
        obtain ⟨template, tried, clear, same⟩ := asked_iff.1 asked
        rw [options_stepMany] at clear same
        exact ⟨d.stepMany h k world, template, .step stepping steps tried, clear, same⟩
      · cases command with
        | stepOver | stepInto | stepOut | resume => simp [DebugCommand.isStepping] at stepping
        | pause | reset | inspect => simp [requests, operate, execute] at member
        | evaluate expression =>
          rw [requests_evaluate, Option.mem_toList, Option.bind_eq_some_iff] at member
          obtain ⟨template, tried, admitted⟩ := member
          obtain ⟨clear, same⟩ := Options.admitted_iff.1 admitted
          exact ⟨(d, world), template, .expression tried, clear, same⟩
    | breakpoint stepId enabled =>
      simp only [requests, operate] at member
      split at member
      · simp at member
      · simp at member
    | riskLevel level => simp [requests, operate] at member
  · rintro ⟨moment, template, tries, clear, rfl⟩
    cases tries with
    | expression tried =>
      rw [requests_evaluate, tried, Option.mem_toList]
      exact Options.admitted_iff.2 ⟨clear, rfl⟩
    | @step command k more template stepping within tried =>
      obtain ⟨n, steps, log⟩ := requests_steps (h := h) stepping d world
      rw [log, mem_asks]
      -- the command cannot have ended before the step, for the history grows with it
      have inside : k < n := by
        refine Nat.lt_of_not_le fun past => ?_
        have grown := history_grows (h := h) tried (d.stepMany h k world).2
        have before := (history_of_le h past d world).length_le
        have after := (history_of_le h (Nat.le_add_right (k + 1) more) d world).length_le
        rw [within, ← steps, stepMany_add] at after
        simp only [stepMany] at after
        omega
      refine ⟨k, n - (k + 1), by omega, asked_iff.2 ⟨template, tried, ?_⟩⟩
      rw [options_stepMany]
      exact ⟨clear, rfl⟩

theorem operate_refused {d : Debugger} {world : σ} {command : DebugCommand}
    (stepping : command.isStepping = true) {moment : Debugger × σ} {template : String}
    (tries : Tries h d world (.command command) moment template)
    (refused : d.options.refuses (moment.1.state.vars.fill template) = true) :
    moment.1.Stopped (d.operate h (.command command) world).1 ∧
      (d.operate h (.command command) world).2 = h.wait (h.wait moment.2) := by
  cases tries with
  | expression tried => simp [DebugCommand.isStepping] at stepping
  | @step _ n more _ _ within tried =>
    rw [← options_stepMany h n d world] at refused
    obtain ⟨stopped, after⟩ := stepOver_refused (h := h) tried refused (d.stepMany h n world).2
    have final : ((d.stepMany h n world).1.stepOver h
        (d.stepMany h n world).2).1.2.state.status.isFinal = true := by
      rw [stopped.status]
      rfl
    rw [← within, Nat.add_assoc, stepMany_add, Nat.add_comm 1 more, stepMany_succ,
      stepMany_final h more final]
    exact ⟨stopped, after⟩

theorem evaluate_refused {d : Debugger} {expression template : String}
    (tried : commandTemplate? expression = some template)
    (refused : d.options.refuses (d.state.vars.fill template) = true) (world : σ) :
    d.operate h (.command (.evaluate expression)) world = (d, world) := by
  have gated := d.state.vars.evaluate_gated d.options tried
  simp only [operate, execute]
  generalize d.state.vars.evaluate d.options expression = plan at gated
  cases gated with
  | refused high tells => rfl
  | passed clear => simp [clear] at refused

theorem refused_of_blocked {d : Debugger} {world : σ} {result : StepResult}
    (evaluated : (d.stepOver h world).1.1 = some result)
    (blocked : result.errorKind = some .riskBlocked) :
    ∃ template, d.template? = some template ∧
      d.options.refuses (d.state.vars.fill template) = true := by
  cases pending : d.pending? with
  | none =>
    obtain ⟨next, stands⟩ := stepOver_idle pending
    simp [stands] at evaluated
  | some step =>
    obtain ⟨c, -, -, steps⟩ := stepOver_pending pending
    rw [steps, evaluateAt_result] at evaluated
    obtain rfl := Option.some.inj evaluated
    obtain ⟨template, tried, refused⟩ := step.refused_of_outcome d.options d.state.vars rfl blocked
    exact ⟨template, by simpa [template?, pending] using tried, refused⟩

theorem level_of_tried {d : Debugger} {template : String} {result : StepResult} {world : σ}
    (tried : d.template? = some template)
    (evaluated : (d.stepOver h world).1.1 = some result) :
    result.riskLevel = some (Risk.classify (d.state.vars.fill template)) := by
  obtain ⟨c, step, -, -, tried, steps⟩ := stepOver_tried (h := h) tried world
  rw [steps, evaluateAt_result] at evaluated
  obtain rfl := Option.some.inj evaluated
  have gated := step.plan_gated d.options d.state.vars tried
  generalize step.plan d.options d.state.vars = plan at gated
  cases gated with
  | refused high tells => exact tells.level
  | passed clear tells => exact (tells _ _).level

theorem operateAll_recording (ops : List Operation) (d : Debugger) (world : σ)
    (log : List Request) :
    d.operateAll h.recording ops (world, log) =
      ((d.operateAll h ops world).1, (d.operateAll h ops world).2,
        log ++ (d.calls h ops world).map (·.request)) := by
  induction ops generalizing d world log with
  | nil => simp [operateAll, calls]
  | cons op rest ih =>
    simp only [operateAll, operate_recording, Host.wait_recording, ih, calls, List.map_append,
      List.map_map, Function.comp_def, List.map_id', List.append_assoc]

theorem calls_harmless (ops : List Operation) (d : Debugger) (world : σ) :
    ∀ call ∈ d.calls h ops world, call.level = .low → call.request.Harmless := by
  induction ops generalizing d world with
  | nil => simp [calls]
  | cons op rest ih =>
    intro call member low
    rcases List.mem_append.1 member with now | later
    · obtain ⟨request, asked, rfl⟩ := List.mem_map.1 now
      obtain ⟨moment, template, -, clear, rfl⟩ := requests_iff.1 asked
      exact Options.request_harmless low clear
    · exact ih _ _ call later low

/-- What the gate does with the commands that an operation on a run tries. -/
structure Guarded (h : Host σ) (d : Debugger) (world : σ) : Prop where
  asked : ∀ op request, request ∈ d.requests h op world ↔
    ∃ moment template, Tries h d world op moment template ∧
      d.options.refuses (moment.1.state.vars.fill template) = false ∧
      request = d.options.request (moment.1.state.vars.fill template)
  refusedStep : ∀ command moment template, command.isStepping = true →
    Tries h d world (.command command) moment template →
    d.options.refuses (moment.1.state.vars.fill template) = true →
    moment.1.Stopped (d.operate h (.command command) world).1 ∧
      (d.operate h (.command command) world).2 = h.wait (h.wait moment.2)
  refusedExpression : ∀ expression template, commandTemplate? expression = some template →
    d.options.refuses (d.state.vars.fill template) = true →
    d.operate h (.command (.evaluate expression)) world = (d, world)
  judged : ∀ template result, d.template? = some template →
    (d.stepOver h world).1.1 = some result →
    result.riskLevel = some (Risk.classify (d.state.vars.fill template))
  blamed : ∀ result, (d.stepOver h world).1.1 = some result →
    result.errorKind = some .riskBlocked → ∃ template, d.template? = some template ∧
      d.options.refuses (d.state.vars.fill template) = true
  unhindered : d.options.riskLevel ≠ .low →
    (∀ op moment template, Tries h d world op moment template →
      d.options.request (moment.1.state.vars.fill template) ∈ d.requests h op world) ∧
    ∀ result, (d.stepOver h world).1.1 = some result → result.errorKind ≠ some .riskBlocked

theorem guarded (h : Host σ) (d : Debugger) (world : σ) : Guarded h d world where
  asked _ _ := requests_iff
  refusedStep _ _ _ stepping tries refused := operate_refused stepping tries refused
  refusedExpression _ _ tried refused := evaluate_refused tried refused world
  judged _ _ tried evaluated := level_of_tried tried evaluated
  blamed _ evaluated blocked := refused_of_blocked evaluated blocked
  unhindered raised := by
    have clear (command : String) : d.options.refuses command = false :=
      Bool.eq_false_iff.2 fun refused => raised (Options.refuses_iff.1 refused).1
    refine ⟨fun op moment template tries => ?_, fun result evaluated blocked => ?_⟩
    · exact requests_iff.2 ⟨moment, template, tries, clear _, rfl⟩
    · obtain ⟨template, -, refused⟩ := refused_of_blocked evaluated blocked
      rw [clear] at refused
      simp at refused

end Debugger

/-- Whatever an operator does and whatever the host answers: what the host is given in safe mode is
harmless, and the gate stands wherever the run has got to. -/
theorem commands_pass_gate {σ : Type} (h : Host σ) (p : Program) (analysis : Option Analysis)
    (options : Options) (maxSteps : Nat) (ops : List Operation) (world : σ) :
    let start := Debugger.start p analysis options maxSteps
    (start.operateAll h.recording ops (world, [])).2.2 =
        (start.calls h ops world).map (·.request) ∧
      (∀ call ∈ start.calls h ops world, call.level = .low → call.request.Harmless) ∧
      Debugger.Guarded h (start.operateAll h ops world).1 (start.operateAll h ops world).2 :=
  ⟨by rw [Debugger.operateAll_recording, List.nil_append], Debugger.calls_harmless ops _ world,
    Debugger.guarded h _ _⟩

theorem greeting_calls :
    let start := Debugger.start .greeting none { Options.standard with riskLevel := .low } 5
    let ops : List Operation := [.command .resume, .command (.evaluate "!reboot"),
      .riskLevel .medium, .command .resume]
    start.calls .echoing ops 0 = [⟨.low, Options.standard.request "echo hello"⟩,
        ⟨.medium, Options.standard.request "echo rm -rf hello"⟩] ∧
      ∀ call ∈ start.calls .echoing ops 0, call.level = .low → call.request.Harmless := by
  intro start ops
  obtain ⟨-, harmless, -⟩ := commands_pass_gate .echoing .greeting none
    { Options.standard with riskLevel := .low } 5 ops 0
  exact ⟨by decide +kernel, harmless⟩

end Stepwise
