import Stepwise.Debugger.Inspect
/-!
The gate between a run and its host. Of a step or an expression that tries a command it is said here
which template that is; the template is filled in, and what it then reads is both what is judged and
what is asked for. A refusal asks for nothing and writes nothing.
-/

namespace Stepwise

namespace Risk

theorem matchesAny_iff {patterns : List String} {text : List Char} :
    matchesAny patterns text = true ↔ ∃ pattern ∈ patterns, pattern.toList <:+: text := by
  simp only [matchesAny, List.any_eq_true, occursIn_iff]
  constructor
  · rintro ⟨pattern, member, before, after, text⟩
    exact ⟨pattern, member, before, after, text.symm⟩
  · rintro ⟨pattern, member, before, after, text⟩
    exact ⟨pattern, member, before, after, text.symm⟩

theorem classify_high {command : String} :
    classify command = .high ↔
      ∃ pattern ∈ highPatterns, pattern.toList <:+: Text.lowerChars command.toList := by
  rw [← matchesAny_iff, classify, classifyChars]
  split
  · next high => simp [high]
  · next notHigh =>
    split
    · simp [notHigh]
    · simp [notHigh]

end Risk

def Action.template? : Action → Option String
  | .command _ template _ => some template
  | .log _ _ => none

def Step.template? (s : Step) (v : Variables) : Option String :=
  match s.kind with
  | .command _ template _ _ => some template
  | .conditional condition onTrue onFalse =>
    (if condition.holds v then onTrue else onFalse).bind Action.template?
  | .choice (chosen :: _) => chosen.action.template?
  | _ => none

def commandTemplate? (expression : String) : Option String :=
  match Text.trimChars expression.toList with
  | '!' :: template => some (Text.trim (String.ofList template))
  | _ => none

namespace Options

def request (options : Options) (command : String) : Request :=
  ⟨command, options.timeoutMs, options.memoryLimit⟩

def refuses (options : Options) (command : String) : Bool :=
  Risk.isBlocked options.riskLevel (Risk.classify command)

def admitted (options : Options) (command : String) : Option Request :=
  if options.refuses command then none else some (options.request command)

theorem refuses_iff {options : Options} {command : String} :
    options.refuses command = true ↔
      options.riskLevel = .low ∧ Risk.classify command = .high :=
  Risk.isBlocked_iff

/-- The same options at a level at which nothing is refused. -/
def raised (options : Options) : Options := { options with riskLevel := .medium }

theorem refuses_raised (options : Options) (command : String) :
    options.raised.refuses command = false :=
  Bool.eq_false_iff.2 fun refused => by simpa [raised] using (refuses_iff.1 refused).1

end Options

/-- A plan that runs one command if the gate lets it through. -/
inductive Plan.Gated (options : Options) (command : String) (refused passed : α → Prop) :
    Plan α → Prop
  | refused {a : α} (high : options.refuses command = true) (tells : refused a) :
      Gated options command refused passed (.done a)
  | passed {answered : Reply → Timestamp → α} (clear : options.refuses command = false)
      (tells : ∀ reply time, passed (answered reply time)) :
      Gated options command refused passed (.ask (options.request command) answered)

namespace Plan.Gated

variable {options : Options} {command : String}

theorem map {refused passed : α → Prop} {refused' passed' : β → Prop} {plan : Plan α}
    (gated : plan.Gated options command refused passed) (f : α → β)
    (stays : ∀ a, refused a → refused' (f a)) (goes : ∀ a, passed a → passed' (f a)) :
    (plan.map f).Gated options command refused' passed' := by
  cases gated with
  | refused high tells => exact .refused high (stays _ tells)
  | passed clear tells => exact .passed clear fun reply time => goes _ (tells reply time)

theorem request? {refused passed : α → Prop} {plan : Plan α}
    (gated : plan.Gated options command refused passed) :
    plan.request? = options.admitted command := by
  cases gated with
  | refused high tells => rw [Options.admitted, if_pos high]; rfl
  | passed clear tells => rw [Options.admitted, clear]; rfl

end Plan.Gated

def Attempt.IsRefusal (command : String) (a : Attempt) : Prop :=
  a = .blocked command (Risk.classify command)

def Attempt.IsTrial (command : String) : Attempt → Prop
  | .blocked .. => False
  | .aborted text level _ | .finished text level _ _ =>
    text = command ∧ level = Risk.classify command

theorem attempt_gated (options : Options) (v : Variables) (template : String) :
    (attempt options v template).Gated options (v.fill template)
      (Attempt.IsRefusal (v.fill template)) (Attempt.IsTrial (v.fill template)) := by
  unfold attempt
  dsimp only
  split
  · next high => exact .refused high rfl
  · next clear =>
    refine .passed (by simpa [Options.refuses] using clear) fun reply time => ?_
    cases reply with
    | ok output => exact ⟨rfl, rfl⟩
    | error error => exact ⟨rfl, rfl⟩

theorem attempt_raised {options : Options} {v : Variables} {template : String}
    (clear : options.refuses (v.fill template) = false) :
    attempt options v template = attempt options.raised v template := by
  have open' : Risk.isBlocked options.raised.riskLevel (Risk.classify (v.fill template)) = false :=
    options.refuses_raised _
  unfold attempt
  dsimp only
  rw [if_neg (by simpa [Options.refuses] using clear), if_neg (by simp [open'])]
  rfl

/-- What a step comes to whose command was refused. -/
structure Evaluated.Refused (v : Variables) (command : String) (e : Evaluated) : Prop where
  vars : e.vars = v
  failure : e.result.success = false
  kind : e.result.errorKind = some .riskBlocked
  level : e.result.riskLevel = some (Risk.classify command)

structure Evaluated.Passed (command : String) (e : Evaluated) : Prop where
  kind : e.result.errorKind ≠ some .riskBlocked
  level : e.result.riskLevel = some (Risk.classify command)

namespace Step

variable (s : Step) (options : Options) (v : Variables)

theorem runCommand_gated (template : String) (target : Option String) :
    (s.runCommand options v template target).Gated options (v.fill template)
      (Evaluated.Refused v (v.fill template)) (Evaluated.Passed (v.fill template)) := by
  refine (attempt_gated options v template).map _ ?_ ?_
  · rintro a rfl
    exact ⟨rfl, rfl, rfl, rfl⟩
  · intro a trial
    cases a with
    | blocked command level => exact trial.elim
    | aborted command level error =>
      obtain ⟨-, level⟩ := trial
      exact ⟨by simp [Attempt.evaluated, StepResult.failed, StepError.kind], by rw [← level]; rfl⟩
    | finished command level output time =>
      obtain ⟨-, level⟩ := trial
      by_cases success : output.success = true
      · exact ⟨by simp [Attempt.evaluated, success, StepResult.ok], by rw [← level]; rfl⟩
      · exact ⟨by simp [Attempt.evaluated, success, StepResult.failed, StepError.kind],
          by rw [← level]; rfl⟩

theorem runAction_gated {a : Action} {template : String} (tried : a.template? = some template) :
    (s.runAction options v a).Gated options (v.fill template)
      (Evaluated.Refused v (v.fill template)) (Evaluated.Passed (v.fill template)) := by
  cases a with
  | command tool text target =>
    obtain rfl : text = template := Option.some.inj tried
    exact runCommand_gated s options v text target
  | log message level => simp [Action.template?] at tried

theorem wrapped_gated {command : String} {plan : Plan Evaluated} (wrap : Json → Json)
    (gated : plan.Gated options command (Evaluated.Refused v command) (Evaluated.Passed command)) :
    (plan.map (wrapOutput wrap)).Gated options command (Evaluated.Refused v command)
      (Evaluated.Passed command) :=
  gated.map _ (fun _ refused => ⟨refused.vars, refused.failure, refused.kind, refused.level⟩)
    fun _ passed => ⟨passed.kind, passed.level⟩

/-- Every way in which a step comes to a command leads through the gate. -/
theorem plan_gated {template : String} (tried : s.template? v = some template) :
    (s.plan options v).Gated options (v.fill template)
      (Evaluated.Refused v (v.fill template)) (Evaluated.Passed (v.fill template)) := by
  unfold template? at tried
  unfold plan
  split at tried
  · next kind =>
    obtain rfl := Option.some.inj tried
    simp only [kind]
    exact runCommand_gated s options v _ _
  · next condition onTrue onFalse kind =>
    obtain ⟨a, branch, tried⟩ := Option.bind_eq_some_iff.1 tried
    simp only [kind, branch]
    exact wrapped_gated options v _ (runAction_gated s options v tried)
  · next chosen rest kind =>
    simp only [kind]
    exact wrapped_gated options v _ (runAction_gated s options v tried)
  · simp at tried

theorem runAction_untried {a : Action} (untried : a.template? = none) :
    ∃ e, s.runAction options v a = .done e ∧ e.result.errorKind = none := by
  cases a with
  | command tool template target => simp [Action.template?] at untried
  | log message level => exact ⟨_, rfl, rfl⟩

theorem wrapped_untried {plan : Plan Evaluated} (wrap : Json → Json)
    (quiet : ∃ e, plan = .done e ∧ e.result.errorKind = none) :
    ∃ e, plan.map (wrapOutput wrap) = .done e ∧ e.result.errorKind = none := by
  obtain ⟨e, rfl, kind⟩ := quiet
  exact ⟨_, rfl, kind⟩

theorem plan_untried (untried : s.template? v = none) :
    ∃ e, s.plan options v = .done e ∧ e.result.errorKind ≠ some .riskBlocked := by
  have quiet {plan : Plan Evaluated} (done : ∃ e, plan = .done e ∧ e.result.errorKind = none) :
      ∃ e, plan = .done e ∧ e.result.errorKind ≠ some .riskBlocked := by
    obtain ⟨e, same, kind⟩ := done
    exact ⟨e, same, by simp [kind]⟩
  unfold template? at untried
  unfold plan
  cases kind : s.kind with
  | command tool template parameters target => simp [kind] at untried
  | conditional condition onTrue onFalse =>
    simp only [kind] at untried
    dsimp only
    cases branch : (if condition.holds v = true then onTrue else onFalse) with
    | none => exact quiet ⟨_, rfl, rfl⟩
    | some a =>
      rw [branch] at untried
      exact quiet (wrapped_untried _ (runAction_untried s options v untried))
  | assignment target value name =>
    refine quiet ⟨_, rfl, ?_⟩
    unfold assign
    split
    · rfl
    · rfl
  | choice choices =>
    cases choices with
    | nil => exact ⟨_, rfl, by simp [StepResult.failed, StepError.kind]⟩
    | cons chosen rest =>
      simp only [kind] at untried
      exact quiet (wrapped_untried _ (runAction_untried s options v untried))
  | analysis input extract => exact quiet ⟨_, rfl, rfl⟩
  | note level message => exact quiet ⟨_, rfl, rfl⟩

theorem refused_of_outcome {h : Host σ} {world after : σ} {e : Evaluated}
    (outcome : (s.plan options v).run h world = (e, after))
    (blocked : e.result.errorKind = some .riskBlocked) :
    ∃ template, s.template? v = some template ∧ options.refuses (v.fill template) = true := by
  have same : ((s.plan options v).run h world).1 = e := by rw [outcome]
  cases tried : s.template? v with
  | none =>
    obtain ⟨e', plan, clear⟩ := s.plan_untried options v tried
    rw [plan] at same
    exact absurd blocked (same ▸ clear)
  | some template =>
    have gated := s.plan_gated options v tried
    generalize s.plan options v = plan at gated same
    cases gated with
    | refused high tells => exact ⟨template, rfl, high⟩
    | passed clear tells => exact absurd blocked (same ▸ (tells _ _).kind)

theorem clear_of_outcome {h : Host σ} {world after : σ} {e : Evaluated}
    (outcome : (s.plan options v).run h world = (e, after))
    (free : e.result.errorKind ≠ some .riskBlocked) {template : String}
    (tried : s.template? v = some template) : options.refuses (v.fill template) = false := by
  have same : ((s.plan options v).run h world).1 = e := by rw [outcome]
  have gated := s.plan_gated options v tried
  generalize s.plan options v = plan at gated same
  cases gated with
  | refused high tells => exact absurd (same ▸ tells.kind) free
  | passed clear tells => exact clear

variable {options} {v}

theorem runAction_raised {a : Action}
    (clear : ∀ t, a.template? = some t → options.refuses (v.fill t) = false) :
    s.runAction options v a = s.runAction options.raised v a := by
  cases a with
  | command tool template target =>
    rw [runAction, runAction, runCommand, runCommand, attempt_raised (clear template rfl)]
  | log message level => rfl

theorem plan_raised (clear : ∀ t, s.template? v = some t → options.refuses (v.fill t) = false) :
    s.plan options v = s.plan options.raised v := by
  unfold template? at clear
  unfold plan
  cases kind : s.kind with
  | command tool template parameters target =>
    simp only [kind, Option.some.injEq, forall_eq'] at clear
    dsimp only
    rw [runCommand, runCommand, attempt_raised clear]
  | conditional condition onTrue onFalse =>
    simp only [kind] at clear
    dsimp only
    cases branch : (if condition.holds v = true then onTrue else onFalse) with
    | none => rfl
    | some a =>
      rw [branch] at clear
      dsimp only
      rw [s.runAction_raised clear]
  | choice choices =>
    cases choices with
    | nil => rfl
    | cons chosen rest =>
      simp only [kind] at clear
      dsimp only
      rw [s.runAction_raised clear]
  | assignment | analysis | note => rfl

variable (options) (v)

theorem plan_request? :
    (s.plan options v).request? = (s.template? v).bind fun t => options.admitted (v.fill t) := by
  cases tried : s.template? v with
  | none =>
    obtain ⟨e, done, -⟩ := plan_untried s options v tried
    rw [done]
    rfl
  | some template => exact (plan_gated s options v tried).request?

end Step

def Evaluation.IsRefusal (command : String) (e : Evaluation) : Prop :=
  e = .command (Attempt.blocked command (Risk.classify command)).report

def Evaluation.IsTrial (command : String) (e : Evaluation) : Prop :=
  ∃ a : Attempt, a.IsTrial command ∧ e = .command a.report

theorem commandTemplate?_iff {expression template : String} :
    commandTemplate? expression = some template ↔
      ∃ rest, Text.trimChars expression.toList = '!' :: rest ∧
        template = Text.trim (String.ofList rest) := by
  unfold commandTemplate?
  constructor
  · intro tried
    split at tried
    · next rest text => exact ⟨rest, text, (Option.some.inj tried).symm⟩
    · simp at tried
  · rintro ⟨rest, text, rfl⟩
    simp only [text]

namespace Variables

variable (v : Variables) (options : Options)

theorem evaluate_gated {expression template : String}
    (tried : commandTemplate? expression = some template) :
    (v.evaluate options expression).Gated options (v.fill template)
      (Evaluation.IsRefusal (v.fill template)) (Evaluation.IsTrial (v.fill template)) := by
  obtain ⟨rest, text, rfl⟩ := commandTemplate?_iff.1 tried
  unfold evaluate
  simp only [text]
  refine (attempt_gated options v _).map _ ?_ ?_
  · rintro a rfl
    rfl
  · exact fun a trial => ⟨a, trial, rfl⟩

theorem evaluate_untried {expression : String} (untried : commandTemplate? expression = none) :
    ∃ e, v.evaluate options expression = .done e ∧ e.succeeded = true := by
  have other (rest : List Char) : Text.trimChars expression.toList ≠ '!' :: rest := fun text => by
    rw [commandTemplate?_iff.2 ⟨rest, text, rfl⟩] at untried
    simp at untried
  unfold evaluate
  split
  · next text => exact absurd text (other _)
  · cases soleToken? expression with
    | none => exact ⟨_, rfl, rfl⟩
    | some name => exact ⟨_, rfl, rfl⟩

theorem evaluate_request? (expression : String) :
    (v.evaluate options expression).request? =
      (commandTemplate? expression).bind fun t => options.admitted (v.fill t) := by
  cases tried : commandTemplate? expression with
  | none =>
    obtain ⟨e, done, -⟩ := evaluate_untried v options tried
    rw [done]
    rfl
  | some template => exact (evaluate_gated v options tried).request?

end Variables

end Stepwise
