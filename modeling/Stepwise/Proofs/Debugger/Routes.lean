import Stepwise.Proofs.Program.WellFormed
import Stepwise.Proofs.Run.Gate
import Stepwise.Proofs.Run.Reads
/-!
The ways to one command template. Where commands are answered by a function, it comes to the same
whether a template is the line of a step, of the branch that a condition selects or of the first
option of a choice, but for the type of the step and for what its output is put into; evaluated as
an expression it reports the same and changes nothing.
-/

namespace Stepwise

/-- An evaluation as that of a step of another type, which puts the output into its own. -/
def Evaluated.relayed (type : String) (wrap : Json → Json) (e : Evaluated) : Evaluated :=
  { e with result := { e.result with stepType := type, output := wrap e.result.output } }

theorem Attempt.evaluated_relayed {s plain : Step} (id : s.id = plain.id) (wrap : Json → Json)
    (v : Variables) (target : Option String) (a : Attempt) :
    Step.wrapOutput wrap (a.evaluated s v target) =
      (a.evaluated plain v target).relayed s.kind.typeName wrap := by
  cases a with
  | blocked command level | aborted command level error =>
    simp [Step.wrapOutput, Evaluated.relayed, evaluated, StepResult.failed, StepResult.ok, id]
  | finished command level output time =>
    by_cases success : output.success = true
    · simp [Step.wrapOutput, Evaluated.relayed, evaluated, success, StepResult.ok, id]
    · simp [Step.wrapOutput, Evaluated.relayed, evaluated, success, StepResult.failed,
        StepResult.ok, id]

namespace Step

variable {s plain : Step} {template : String} {target : Option String}

theorem runCommand_relayed (id : s.id = plain.id) (options : Options) (v : Variables)
    (wrap : Json → Json) : (s.runCommand options v template target).map (wrapOutput wrap) =
      (plain.runCommand options v template target).map (·.relayed s.kind.typeName wrap) := by
  have each : (fun a : Attempt => wrapOutput wrap (a.evaluated s v target)) =
      fun a => (a.evaluated plain v target).relayed s.kind.typeName wrap :=
    funext (Attempt.evaluated_relayed id wrap v target)
  rw [runCommand, runCommand, Plan.map_map, Plan.map_map, each]

def RunsFor (s plain : Step) (wrap : Json → Json) (options : Options) (v : Variables) : Prop :=
  s.plan options v = (plain.plan options v).map (·.relayed s.kind.typeName wrap)

variable {tool line : String} {parameters : Table Json}

theorem runsFor_branch (kind : plain.kind = .command tool template parameters target)
    (id : s.id = plain.id) (options : Options) {v : Variables} {condition : Condition}
    {onTrue onFalse : Option Action}
    (conditional : s.kind = .conditional condition onTrue onFalse)
    (selected : (if condition.holds v then onTrue else onFalse) =
      some (.command line template target)) :
    s.RunsFor plain (branchOutput (condition.holds v)) options v := by
  have own : plain.plan options v = plain.runCommand options v template target := by
    simp only [plan, kind]
  rw [RunsFor, own, ← runCommand_relayed id]
  simp only [plan, conditional, selected, runAction]

theorem runsFor_option (kind : plain.kind = .command tool template parameters target)
    (id : s.id = plain.id) (options : Options) (v : Variables) {chosen : ChoiceOption}
    {rest : List ChoiceOption} (choice : s.kind = .choice (chosen :: rest))
    (first : chosen.action = .command line template target) :
    s.RunsFor plain (optionOutput chosen.description) options v := by
  have own : plain.plan options v = plain.runCommand options v template target := by
    simp only [plan, kind]
  rw [RunsFor, own, ← runCommand_relayed id]
  simp only [plan, choice, first, runAction]

theorem runAction_bare {other : Step} (id : s.id = other.id)
    (type : s.kind.typeName = other.kind.typeName) (options : Options) (v : Variables)
    (a : Action) : s.runAction options v a = other.runAction options v a := by
  have ok : StepResult.ok s = StepResult.ok other := by
    funext output
    simp only [StepResult.ok, id, type]
  cases a with
  | log message level => simp only [runAction, ok]
  | command line template target =>
    have each : (fun a : Attempt => a.evaluated s v target) = (·.evaluated other v target) := by
      funext a
      cases a with
      | _ => simp only [Attempt.evaluated, StepResult.failed, ok]
    simp only [runAction, runCommand, each]

end Step

/-- The evaluation of a step reports what that of a command step does, with the output as the result
within its own, and has written the same, times aside. -/
structure Relays (type : String) (wrap : Json → Json) (own plain : StepResult × RunState) :
    Prop where
  reports : own.1 = { plain.1 with stepType := type, output := wrap plain.1.output }
  inner : own.1.output.member? "result" = some plain.1.output
  vars : own.2.vars.untimed = plain.2.vars.untimed

theorem Step.RunsFor.relays {σ τ : Type} {first : Host σ} {second : Host τ}
    {answer : Request → Reply} (answers : first.Answers answer) (answers' : second.Answers answer)
    {options : Options} {state : RunState} {s plain : Step} {wrap : Json → Json}
    (runs : s.RunsFor plain wrap options state.vars.untimed)
    (inner : ∀ output, (wrap output).member? "result" = some output) (world : σ) (world' : τ) :
    Relays s.kind.typeName wrap (state.evaluate second options s world').1
      (state.evaluate first options plain world).1 := by
  obtain ⟨result, vars⟩ := RunState.evaluate_untimed answers options state plain world
  obtain ⟨result', vars'⟩ := RunState.evaluate_untimed answers' options state s world'
  rw [runs, Plan.run_map] at result' vars'
  have reports : (state.evaluate second options s world').1.1 =
      { (state.evaluate first options plain world).1.1 with
        stepType := s.kind.typeName
        output := wrap (state.evaluate first options plain world).1.1.output } := by
    rw [result', result]
    rfl
  exact ⟨reports, by rw [reports]; exact inner _, vars'.trans vars.symm⟩

def Options.Finishes (options : Options) (answer : Request → Reply) (command : String) : Prop :=
  ∃ request output, options.admitted command = some request ∧ answer request = .ok output

structure CommandReport.Agrees (report : CommandReport) (r : StepResult) (finished : Prop) :
    Prop where
  success : report.success = r.success
  riskLevel : some report.riskLevel = r.riskLevel
  stdout : report.stdout = r.stdout
  stderr : report.stderr = r.stderr
  exitCode : report.exitCode = r.exitCode
  output : finished → r.output = .str report.output
  error : ¬ finished → r.error.isSome = true ∧ report.error = r.error

namespace Attempt

def IsFinished : Attempt → Prop
  | finished .. => True
  | _ => False

def untimed : Attempt → Attempt
  | finished command level output _ => finished command level output .origin
  | a => a

theorem report_untimed (a : Attempt) : a.untimed.report = a.report := by
  cases a with
  | _ => rfl

theorem report_agrees (a : Attempt) (s : Step) (v : Variables) (target : Option String) :
    a.report.Agrees (a.evaluated s v target).result a.IsFinished := by
  cases a with
  | blocked command level | aborted command level error =>
    exact ⟨rfl, rfl, rfl, rfl, rfl, False.elim, fun _ => ⟨rfl, rfl⟩⟩
  | finished command level output time =>
    refine ⟨?_, rfl, rfl, rfl, rfl, fun _ => ?_, fun unfinished => absurd trivial unfinished⟩
    · cases success : output.success with
      | true => simp [report, evaluated, success, StepResult.ok]
      | false => simp [report, evaluated, success, StepResult.failed]
    · cases success : output.success with
      | true => simp [report, evaluated, success, StepResult.ok]
      | false => simp [report, evaluated, success]

end Attempt

section

variable (options : Options) (v : Variables) (template : String)

theorem attempt_answered {h : Host σ} {answer : Request → Reply} (answers : h.Answers answer)
    (world : σ) : ((attempt options v template).run h world).1.untimed =
      ((attempt options v template).run (.ofAnswers answer) ()).1 := by
  unfold attempt
  dsimp only
  split
  · rfl
  · have reply := answers ⟨v.fill template, options.timeoutMs, options.memoryLimit⟩ world
    simp only [Plan.run, reply, Host.ofAnswers]
    cases answer ⟨v.fill template, options.timeoutMs, options.memoryLimit⟩ with
    | error error => rfl
    | ok output => rfl

theorem attempt_isFinished (answer : Request → Reply) :
    ((attempt options v template).run (.ofAnswers answer) ()).1.IsFinished ↔
      options.Finishes answer (v.fill template) := by
  unfold attempt Options.Finishes Options.admitted
  dsimp only
  by_cases refused : options.refuses (v.fill template) = true
  · rw [if_pos (by simpa [Options.refuses] using refused)]
    simp [refused, Plan.run, Attempt.IsFinished]
  · rw [if_neg (by simpa [Options.refuses] using refused)]
    simp only [refused, Plan.run, Host.ofAnswers, Options.request]
    cases reply : answer ⟨v.fill template, options.timeoutMs, options.memoryLimit⟩ with
    | error error => simp [Attempt.IsFinished, reply]
    | ok output => simp [Attempt.IsFinished, reply]

theorem evaluate_marked (trimmed : Text.trim template = template) :
    v.evaluate options ("!" ++ template) =
      (attempt options v template).map fun a => .command a.report := by
  have inside : Text.trimChars template.toList = template.toList := by
    rw [← String.toList_ofList (l := Text.trimChars template.toList), ← Text.trim, trimmed]
  have text : Text.trimChars ("!" ++ template).toList = '!' :: template.toList := by
    have split : ("!" ++ template).toList = '!' :: template.toList := by
      rw [String.toList_append]
      rfl
    rw [split, Text.trimChars_cons (by decide), Text.trimEnd_of_trimmed inside]
  simp only [Variables.evaluate, text, String.ofList_toList, trimmed]

end

namespace Debugger

/-- The ways in which a run can come to a command template, beside a command step of its own. -/
structure Routes (first : Host σ) (second : Host τ) (answer : Request → Reply) (d : Debugger)
    (plain : Step) (template : String) (target : Option String) (world : σ) (world' : τ) :
    Prop where
  branch : ∀ s condition onTrue onFalse line, s.id = plain.id →
    s.kind = .conditional condition onTrue onFalse →
    (if condition.holds d.state.vars then onTrue else onFalse) =
      some (.command line template target) →
    Relays "conditional" (Step.branchOutput (condition.holds d.state.vars))
      (d.state.evaluate second d.options s world').1
      (d.state.evaluate first d.options plain world).1
  option : ∀ s chosen rest line, s.id = plain.id → s.kind = .choice (chosen :: rest) →
    chosen.action = .command line template target →
    Relays "choice" (Step.optionOutput chosen.description)
      (d.state.evaluate second d.options s world').1
      (d.state.evaluate first d.options plain world).1
  expression : Text.trim template = template →
    let done := (d.execute second (.evaluate ("!" ++ template)) world').1
    done.2 = d ∧ ∃ report, done.1.evaluation = some (.command report) ∧
      report.Agrees (d.state.evaluate first d.options plain world).1.1
        (d.options.Finishes answer (d.state.vars.fill template))

/-- What a step with several actions does not run does not show: neither the branch that was not
selected nor the options after the first. -/
structure Unselected (h : Host σ) (options : Options) (state : RunState) : Prop where
  branch : ∀ id description condition onTrue onFalse onTrue' onFalse',
    (if condition.holds state.vars then onTrue else onFalse) =
      (if condition.holds state.vars then onTrue' else onFalse') →
    ∀ world,
      state.evaluate h options ⟨id, description, .conditional condition onTrue onFalse⟩ world =
        state.evaluate h options ⟨id, description, .conditional condition onTrue' onFalse'⟩ world
  option : ∀ id description chosen rest rest' world,
    state.evaluate h options ⟨id, description, .choice (chosen :: rest)⟩ world =
      state.evaluate h options ⟨id, description, .choice (chosen :: rest')⟩ world

theorem unselected (h : Host σ) (options : Options) (state : RunState) :
    Unselected h options state where
  branch id description condition onTrue onFalse onTrue' onFalse' same world := by
    have plan : (⟨id, description, .conditional condition onTrue onFalse⟩ : Step).plan options
        state.vars =
        (⟨id, description, .conditional condition onTrue' onFalse'⟩ : Step).plan options
          state.vars := by
      simp only [Step.plan, same]
      cases (if condition.holds state.vars = true then onTrue' else onFalse') with
      | none => rfl
      | some a =>
        dsimp only
        rw [Step.runAction_bare _ _ options state.vars a] <;> rfl
    simp only [RunState.evaluate, plan]
  option id description chosen rest rest' world := by
    have plan : (⟨id, description, .choice (chosen :: rest)⟩ : Step).plan options state.vars =
        (⟨id, description, .choice (chosen :: rest')⟩ : Step).plan options state.vars := by
      simp only [Step.plan]
      rw [Step.runAction_bare _ _ options state.vars chosen.action] <;> rfl
    simp only [RunState.evaluate, plan]

theorem report_agrees {first : Host σ} {second : Host τ} {answer : Request → Reply}
    (answers : first.Answers answer) (answers' : second.Answers answer) (options : Options)
    (state : RunState) {plain : Step} {tool template : String} {parameters : Table Json}
    {target : Option String} (kind : plain.kind = .command tool template parameters target)
    (world : σ) (world' : τ) :
    ((attempt options state.vars template).run second world').1.report.Agrees
      (state.evaluate first options plain world).1.1
      (options.Finishes answer (state.vars.fill template)) := by
  obtain ⟨result, -⟩ := RunState.evaluate_untimed answers options state plain world
  have own : plain.plan options state.vars.untimed =
      (attempt options state.vars template).map (·.evaluated plain state.vars.untimed target) := by
    simp only [Step.plan, kind, Step.runCommand, attempt_untimed]
  rw [own, Plan.run_map] at result
  have agrees := ((attempt options state.vars template).run (.ofAnswers answer) ()).1.report_agrees
    plain state.vars.untimed target
  rw [← result, ← attempt_answered options state.vars template answers' world',
    Attempt.report_untimed] at agrees
  have finished := attempt_isFinished options state.vars template answer
  rw [← attempt_answered options state.vars template answers' world'] at finished
  exact ⟨agrees.success, agrees.riskLevel, agrees.stdout, agrees.stderr, agrees.exitCode,
    fun ended => agrees.output (finished.2 ended),
    fun unended => agrees.error fun ended => unended (finished.1 ended)⟩

end Debugger

/-- In any state, under any options and wherever commands are answered by a function: a template
comes to the same on every way to it, and the actions beside the one that is run come to nothing. -/
theorem routes_agree {σ τ : Type} {first : Host σ} {second : Host τ} {answer : Request → Reply}
    (answers : first.Answers answer) (answers' : second.Answers answer) (d : Debugger)
    {plain : Step} {tool template : String} {parameters : Table Json} {target : Option String}
    (kind : plain.kind = .command tool template parameters target) (world : σ) (world' : τ) :
    d.Routes first second answer plain template target world world' ∧
      Debugger.Unselected second d.options d.state := by
  refine ⟨⟨?_, ?_, ?_⟩, Debugger.unselected second d.options d.state⟩
  · intro s condition onTrue onFalse line id conditional selected
    have type : s.kind.typeName = "conditional" := by rw [conditional]; rfl
    rw [← Condition.holds_untimed] at selected ⊢
    rw [← type]
    exact (Step.runsFor_branch kind id d.options conditional selected).relays answers answers'
      (fun _ => rfl) world world'
  · intro s chosen rest line id choice action
    have type : s.kind.typeName = "choice" := by rw [choice]; rfl
    rw [← type]
    exact (Step.runsFor_option kind id d.options d.state.vars.untimed choice action).relays
      answers answers' (fun _ => rfl) world world'
  · intro trimmed
    have marked := evaluate_marked d.options d.state.vars template trimmed
    refine ⟨rfl, ((attempt d.options d.state.vars template).run second world').1.report, ?_,
      Debugger.report_agrees answers answers' d.options d.state kind world world'⟩
    simp only [Debugger.execute, Debugger.outcome, marked, Plan.run_map]

namespace Step

/-- A step that tries what its branch does, and the branch's command as a step of its own. -/
def act : Step :=
  ⟨"act", "", .conditional (.equality "said" "hello")
    (some (.command "sh" "echo rm -rf $said" none)) none⟩

def actAlone : Step := ⟨"act", "", .command "sh" "echo rm -rf $said" ∅ none⟩

end Step

theorem act_routes :
    let d : Debugger :=
      ⟨.greeting, none, { Options.standard with riskLevel := .low }, 5, .holding "said" "hello"⟩
    let alone := (d.state.evaluate .echoing d.options .actAlone 1).1
    alone.1.success = false ∧
      Relays "conditional" (Step.branchOutput true)
        (d.state.evaluate (.ofAnswers echo) d.options .act ()).1 alone ∧
      ∃ report, report.error = alone.1.error ∧
        (d.execute (.ofAnswers echo) (.evaluate ("!" ++ "echo rm -rf $said")) ()).1.1.evaluation =
          some (.command report) := by
  intro d alone
  have answers : Host.echoing.Answers echo := fun _ _ => rfl
  have answers' : (Host.ofAnswers echo).Answers echo := fun _ _ => rfl
  have kind : Step.actAlone.kind = .command "sh" "echo rm -rf $said" ∅ none := rfl
  obtain ⟨routes, -⟩ := routes_agree answers answers' d kind 1 ()
  obtain ⟨-, report, told, agrees⟩ := routes.expression (by decide +kernel)
  have holds : (Condition.equality "said" "hello").holds d.state.vars = true := by decide +kernel
  have relays := routes.branch Step.act _ _ _ _ rfl rfl (by rw [holds]; rfl)
  rw [holds] at relays
  have unfinished : ¬ d.options.Finishes echo (d.state.vars.fill "echo rm -rf $said") := by
    rintro ⟨request, output, admitted, -⟩
    have refused : d.options.admitted (d.state.vars.fill "echo rm -rf $said") = none := by
      decide +kernel
    simp [refused] at admitted
  exact ⟨by decide +kernel, relays, report, (agrees.error unfinished).2, told⟩

end Stepwise
