import Stepwise.Run.Evaluate
/-!
What evaluating a step can come to, whatever the host answers: the result names the step, a success
reports no error, and a failure has written nothing and has a cause that its step can have.
-/

namespace Stepwise

def Plan.Always (P : α → Prop) : Plan α → Prop
  | .done a => P a
  | .ask _ answered => ∀ reply time, P (answered reply time)

namespace Plan

theorem always_map {P : β → Prop} {f : α → β} {plan : Plan α} :
    (plan.map f).Always P ↔ plan.Always fun a => P (f a) := by
  cases plan with
  | done a => exact Iff.rfl
  | ask request answered => exact Iff.rfl

theorem Always.mono {P Q : α → Prop} {plan : Plan α} (always : plan.Always P)
    (weaken : ∀ a, P a → Q a) : plan.Always Q := by
  cases plan with
  | done a => exact weaken a always
  | ask request answered => exact fun reply time => weaken _ (always reply time)

theorem Always.outcome {P : α → Prop} {plan : Plan α} (always : plan.Always P) {h : Host σ}
    {world after : σ} {a : α} (outcome : plan.run h world = (a, after)) : P a := by
  have same : (plan.run h world).1 = a := by rw [outcome]
  cases plan with
  | done value => exact same ▸ always
  | ask request answered => exact same ▸ always _ _

end Plan

def StepError.CanStop (s : Step) : StepError → Prop
  | .riskBlocked _ | .aborted _ | .exited .. => True
  | .noOptions => s.kind = .choice []
  | .stepLimit _ | .unknownStep _ => False

structure Evaluated.Fits (s : Step) (v : Variables) (e : Evaluated) : Prop where
  stepId : e.result.stepId = s.id
  stepType : e.result.stepType = s.kind.typeName
  succeeded : e.result.success = true → e.result.error = none ∧ e.result.errorKind = none
  failed : e.result.success = false → e.vars = v ∧ ∃ cause : StepError, cause.CanStop s ∧
    e.result.error = some cause.message ∧ e.result.errorKind = some cause.kind

section

variable (s : Step) (options : Options) (v : Variables)

theorem ok_fits (after : Variables) (output : Json) :
    Evaluated.Fits s v ⟨after, .ok s output⟩ where
  stepId := rfl
  stepType := rfl
  succeeded _ := ⟨rfl, rfl⟩
  failed := by simp [StepResult.ok]

theorem attempt_fits (target : Option String) (a : Attempt) :
    (a.evaluated s v target).Fits s v := by
  cases a with
  | blocked command level =>
    exact ⟨rfl, rfl, by simp [Attempt.evaluated, StepResult.failed],
      fun _ => ⟨rfl, .riskBlocked level, trivial, rfl, rfl⟩⟩
  | aborted command level error =>
    exact ⟨rfl, rfl, by simp [Attempt.evaluated, StepResult.failed],
      fun _ => ⟨rfl, .aborted error, trivial, rfl, rfl⟩⟩
  | finished command level output time =>
    by_cases success : output.success = true
    · constructor <;> simp [Attempt.evaluated, success, StepResult.ok]
    · have cause : (StepError.exited output.exitCode output.stderr).CanStop s := trivial
      constructor <;> simp only [Attempt.evaluated, success, StepResult.failed, StepResult.ok]
      · rfl
      · rfl
      · simp
      · exact fun _ => ⟨rfl, _, cause, rfl, rfl⟩

theorem runCommand_fits (template : String) (target : Option String) :
    (s.runCommand options v template target).Always (·.Fits s v) := by
  rw [Step.runCommand, Plan.always_map]
  cases attempt options v template with
  | done a => exact attempt_fits s v target a
  | ask request answered => exact fun reply time => attempt_fits s v target (answered reply time)

theorem runAction_fits (a : Action) : (s.runAction options v a).Always (·.Fits s v) := by
  cases a with
  | command tool template target => exact runCommand_fits s options v template target
  | log message level => exact ok_fits s v v _

theorem wrapped_fits {wrap : Json → Json} {plan : Plan Evaluated}
    (always : plan.Always (·.Fits s v)) :
    (plan.map (Step.wrapOutput wrap)).Always (·.Fits s v) :=
  Plan.always_map.2 (always.mono fun _ fits =>
    ⟨fits.stepId, fits.stepType, fits.succeeded, fits.failed⟩)

theorem plan_fits : (s.plan options v).Always (·.Fits s v) := by
  unfold Step.plan
  split
  · exact runCommand_fits s options v _ _
  · dsimp only
    split
    · exact wrapped_fits s v (runAction_fits s options v _)
    · exact ok_fits s v v _
  · unfold Step.assign
    split
    · exact ok_fits s v _ _
    · exact ok_fits s v _ _
  · next kind =>
    exact ⟨rfl, rfl, by simp [StepResult.failed], fun _ => ⟨rfl, .noOptions, kind, rfl, rfl⟩⟩
  · exact wrapped_fits s v (runAction_fits s options v _)
  · exact ok_fits s v v _
  · exact ok_fits s v v _

end

theorem entry_shape {s : Step} {v : Variables} {e : Evaluated} (fits : e.Fits s v)
    (span : Span) :
    if e.result.success then
      (e.result.entry span).output.isSome ∧ (e.result.entry span).error = none
    else (e.result.entry span).output = none ∧ (e.result.entry span).error.isSome := by
  split
  · next success => exact ⟨by simp [StepResult.entry, success], (fits.succeeded success).1⟩
  · next failure =>
    obtain ⟨_, cause, _, error, _⟩ := fits.failed (by simpa using failure)
    exact ⟨by simp [StepResult.entry, failure], by simp [StepResult.entry, error]⟩

theorem head_append {s : String} {c : Char} (head : s.toList.head? = some c) (t : String) :
    (s ++ t).toList.head? = some c := by
  rw [String.toList_append, List.head?_append, head]
  rfl

/-- The first letter of a message is a capital, save for the two of a faulty program. -/
theorem StepError.head_message (cause : StepError) :
    cause.message.toList.head? =
      match cause with
      | .riskBlocked _ => some 'C'
      | .aborted _ | .exited .. | .stepLimit _ => some 'E'
      | .noOptions | .unknownStep _ => some 'c' := by
  cases cause with
  | riskBlocked level => exact head_append (head_append (by rfl) _) _
  | aborted error => exact head_append (by rfl) _
  | exited code stderr => exact head_append (head_append (head_append (by rfl) _) _) _
  | noOptions => rfl
  | stepLimit limit => exact head_append (head_append (by rfl) _) _
  | unknownStep id => exact head_append (head_append (by rfl) _) _

/-- The causes that a program without faults leaves. -/
def StepError.IsSound : StepError → Prop
  | .riskBlocked _ | .aborted _ | .exited .. | .stepLimit _ => True
  | .noOptions | .unknownStep _ => False

theorem StepError.IsSound.message_ne {cause fault : StepError} (sound : cause.IsSound)
    (faulty : ¬ fault.IsSound) : cause.message ≠ fault.message := by
  have small : fault.message.toList.head? = some 'c' := by
    rw [head_message]
    cases fault with
    | noOptions => rfl
    | unknownStep id => rfl
    | riskBlocked _ | aborted _ | exited _ _ | stepLimit _ => exact absurd trivial faulty
  intro same
  rw [← same, head_message] at small
  cases cause with
  | riskBlocked _ | aborted _ | exited _ _ | stepLimit _ => simp at small
  | noOptions | unknownStep _ => exact sound

end Stepwise
