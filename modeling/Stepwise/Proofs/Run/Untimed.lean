import Stepwise.Proofs.Table
import Stepwise.Run.Evaluate
/-!
Runs without their clock. Against a host whose answers depend on the requests alone, evaluating a
step and then forgetting the times gives what a host without a clock gives from a state whose times
are forgotten.
-/

namespace Stepwise

def Timestamp.origin : Timestamp := ⟨0, 0⟩

/-- A host without a clock that answers by a function. -/
def Host.ofAnswers (answer : Request → Reply) : Host Unit where
  now _ := .origin
  uptime _ := 0
  wait _ := ()
  run request _ := (answer request, ())

/-- Whether a host answers by a function, however its clock goes. -/
def Host.Answers (h : Host σ) (answer : Request → Reply) : Prop :=
  ∀ request world, (h.run request world).1 = answer request

def Span.none : Span := ⟨.origin, .origin, 0⟩

theorem Host.span_ofAnswers (answer : Request → Reply) (before after : Unit) :
    (ofAnswers answer).span before after = .none := by
  simp [span, ofAnswers, Span.none]

def ToolOutput.untimed (t : ToolOutput) : ToolOutput := { t with time := .origin }

def Variables.untimed (v : Variables) : Variables :=
  { v with toolOutputs := v.toolOutputs.map ToolOutput.untimed }

def TraceEntry.untimed (e : TraceEntry) : TraceEntry :=
  { e with startedAt := .origin, completedAt := .origin, durationMs := 0 }

def Failure.untimed (f : Failure) : Failure := { f with time := .origin }

def RunState.untimed (s : RunState) : RunState :=
  { s with
    vars := s.vars.untimed
    history := s.history.map TraceEntry.untimed
    failure := s.failure.map Failure.untimed }

def Evaluated.untimed (e : Evaluated) : Evaluated := { e with vars := e.vars.untimed }

namespace Variables

theorem find?_untimed (v : Variables) : v.untimed.find? = v.find? := by
  funext name
  simp only [find?, untimed, Table.get?_map, Option.map_map]
  rfl

theorem value?_untimed (v : Variables) : v.untimed.value? = v.value? := by
  funext name
  rw [value?, find?_untimed, value?]

theorem fill_untimed (v : Variables) (template : String) :
    v.untimed.fill template = v.fill template := by
  rw [fill, value?_untimed, fill]

theorem operand_untimed (v : Variables) (text : String) :
    v.untimed.operand text = v.operand text := by
  simp only [operand, fill_untimed, value?_untimed]

theorem assignOutput_untimed (v : Variables) (target : Option String) (output : ToolOutput) :
    (v.assignOutput target output).untimed = v.untimed.assignOutput target output.untimed := by
  cases target with
  | none => rfl
  | some name => simp [assignOutput, untimed, Table.map_insert, ToolOutput.untimed]

end Variables

theorem Condition.holds_untimed (condition : Condition) (v : Variables) :
    condition.holds v.untimed = condition.holds v := by
  cases condition with
  | equality operand value => simp [holds, Variables.operand_untimed, Variables.fill_untimed]
  | contains operand value => simp [holds, Variables.operand_untimed, Variables.fill_untimed]
  | boolean expression => simp [holds, Variables.operand_untimed]

theorem attempt_untimed (options : Options) (v : Variables) (template : String) :
    attempt options v.untimed template = attempt options v template := by
  simp only [attempt, Variables.fill_untimed]

inductive Plan.Agree : Plan Evaluated → Plan Evaluated → Prop
  | done {e e' : Evaluated} (same : e.untimed = e') : Agree (.done e) (.done e')
  | ask {request : Request} {answered answered' : Reply → Timestamp → Evaluated}
      (same : ∀ reply time, (answered reply time).untimed = answered' reply .origin) :
      Agree (.ask request answered) (.ask request answered')

namespace Plan

theorem Agree.wrap {plan plan' : Plan Evaluated} (agree : Agree plan plan') (wrap : Json → Json) :
    Agree (plan.map (Step.wrapOutput wrap)) (plan'.map (Step.wrapOutput wrap)) := by
  cases agree with
  | done same => exact .done (by rw [← same]; rfl)
  | ask same => exact .ask fun reply time => by rw [← same reply time]; rfl

theorem Agree.run {plan plan' : Plan Evaluated} (agree : Agree plan plan') {h : Host σ}
    {answer : Request → Reply} (answers : h.Answers answer) (world : σ) :
    (plan.run h world).1.untimed = (plan'.run (.ofAnswers answer) ()).1 := by
  cases agree with
  | done same => exact same
  | @ask request answered answered' same =>
    have reply := answers request world
    simp only [Plan.run, same, reply, Host.ofAnswers]

end Plan

namespace Step

variable (s : Step) (options : Options) (v : Variables)

theorem runCommand_agree (template : String) (target : Option String) :
    Plan.Agree (s.runCommand options v template target)
      (s.runCommand options v.untimed template target) := by
  simp only [runCommand, attempt_untimed]
  unfold attempt
  dsimp only
  split
  · exact .done rfl
  · refine .ask fun reply time => ?_
    cases reply with
    | error error => rfl
    | ok output =>
      by_cases success : output.success = true
      · simp [Attempt.evaluated, success, Evaluated.untimed, Variables.assignOutput_untimed,
          ToolOutput.untimed]
      · simp [Attempt.evaluated, success, Evaluated.untimed]

theorem runAction_agree (a : Action) :
    Plan.Agree (s.runAction options v a) (s.runAction options v.untimed a) := by
  cases a with
  | command tool template target => exact runCommand_agree s options v template target
  | log message level =>
    refine .done ?_
    rw [Variables.fill_untimed]
    rfl

theorem assign_untimed (target value : String) :
    (s.assign v target value).untimed = s.assign v.untimed target value := by
  simp only [assign, Variables.fill_untimed]
  split
  · rfl
  · rfl

theorem plan_agree : Plan.Agree (s.plan options v) (s.plan options v.untimed) := by
  unfold plan
  split
  · exact runCommand_agree s options v _ _
  · simp only [Condition.holds_untimed]
    split
    · exact (runAction_agree s options v _).wrap _
    · exact .done rfl
  · exact .done (assign_untimed s v _ _)
  · exact .done rfl
  · exact (runAction_agree s options v _).wrap _
  · refine .done ?_
    simp only [analyze, Variables.value?_untimed, Variables.fill_untimed]
    rfl
  · refine .done ?_
    rw [Variables.fill_untimed]
    rfl

end Step

theorem entry_untimed (r : StepResult) (span : Span) :
    (r.entry span).untimed = r.entry .none := rfl

end Stepwise
