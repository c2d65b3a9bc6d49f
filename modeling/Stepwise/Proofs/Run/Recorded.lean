import Stepwise.Proofs.Json.InOrder
import Stepwise.Proofs.Run.Writes
/-!
What an evaluation leaves to be recorded. The output of a step that succeeds is never null, and a
step dates the outputs that it keeps by the answer to its command.
-/

namespace Stepwise

open Json (InOrder inOrder_named inOrder_obj)

/-- What is recorded of an evaluation can be told from what is written of it. -/
structure Evaluated.Recordable (v : Variables) (answer : Option Answer) (e : Evaluated) : Prop where
  output : e.result.success = true → e.result.output ≠ .null ∧ e.result.output.InOrder
  toolOutputs : ∀ t ∈ e.vars.toolOutputs.entries,
    t ∈ v.toolOutputs.entries ∨ ∃ a ∈ answer, t.2.time = a.time

theorem Json.inOrder_textOrNull (o : Option String) : (Json.ofOption .str o).InOrder := by
  cases o <;> rfl

namespace Step

variable (s : Step) (options : Options) (v : Variables)

theorem inOrder_logOutput (level : NoteLevel) (message : String) :
    (logOutput level message).InOrder :=
  inOrder_named ["level", "message"] rfl (by decide) (by simp [InOrder, Json.sorted])

theorem inOrder_branchOutput (outcome : Bool) {result : Json} (inOrder : result.InOrder) :
    (branchOutput outcome result).InOrder :=
  inOrder_named ["branch", "condition", "result"] rfl (by decide)
    (by simpa [InOrder, Json.sorted] using inOrder)

theorem inOrder_optionOutput (description : String) {result : Json} (inOrder : result.InOrder) :
    (optionOutput description result).InOrder :=
  inOrder_named ["chosen_option", "description", "result"] rfl (by decide)
    (by simpa [InOrder, Json.sorted, Json.nat] using inOrder)

theorem inOrder_analyze (description : String) (input extract : List String) :
    (analyze v description input extract).InOrder := by
  have table (names : List String) (value? : String → Option String) :
      (Json.obj (Table.ofList
        (names.map fun n => (n, Json.ofOption .str (value? n)))).entries).InOrder := by
    refine inOrder_obj.2 ⟨Table.ordered _, fun e member => ?_⟩
    obtain ⟨n, _, rfl⟩ := List.mem_map.1 (Table.mem_of_mem_ofList member)
    exact Json.inOrder_textOrNull _
  refine inOrder_named ["extracted", "inputs"] rfl (by decide) ?_
  simp only [List.mem_cons, List.not_mem_nil, or_false, forall_eq_or_imp, forall_eq]
  exact ⟨table extract _, table input _⟩

theorem recordable_ok {after : Variables} (kept : after.toolOutputs = v.toolOutputs) {output : Json}
    (something : output ≠ .null) (inOrder : output.InOrder) (answer : Option Answer) :
    Evaluated.Recordable v answer ⟨after, .ok s output⟩ :=
  ⟨fun _ => ⟨something, inOrder⟩, fun _ member => .inl (kept ▸ member)⟩

theorem recordable_failure {result : StepResult} (failure : result.success = false)
    (answer : Option Answer) : Evaluated.Recordable v answer ⟨v, result⟩ :=
  ⟨fun success => absurd success (by simp [failure]), fun _ member => .inl member⟩

theorem runCommand_recordable (template : String) (target : Option String) :
    (s.runCommand options v template target).Tells (Evaluated.Recordable v) := by
  rw [runCommand, Plan.tells_map]
  unfold attempt
  dsimp only
  split
  · exact recordable_failure v rfl none
  · intro reply time
    cases reply with
    | error error => exact recordable_failure v rfl _
    | ok output =>
      by_cases success : output.success = true
      · simp only [Attempt.evaluated, success, if_true]
        refine ⟨fun _ => ⟨by simp [StepResult.ok], rfl⟩, fun t member => ?_⟩
        cases target with
        | none => exact .inl member
        | some name =>
          rcases mem_insertEntry member with rfl | before
          · exact .inr ⟨_, rfl, rfl⟩
          · exact .inl before
      · simp only [Attempt.evaluated, success]
        exact recordable_failure v rfl _

theorem runAction_recordable (a : Action) :
    (s.runAction options v a).Tells (Evaluated.Recordable v) := by
  cases a with
  | command tool template target => exact runCommand_recordable s options v template target
  | log message level =>
    exact recordable_ok s v rfl (by simp [logOutput]) (inOrder_logOutput _ _) _

theorem wrapped_recordable {wrap : Json → Json} {plan : Plan Evaluated}
    (something : ∀ j, wrap j ≠ .null) (inOrder : ∀ j, j.InOrder → (wrap j).InOrder)
    (recordable : plan.Tells (Evaluated.Recordable v)) :
    (plan.map (wrapOutput wrap)).Tells (Evaluated.Recordable v) := by
  rw [Plan.tells_map]
  exact recordable.mono fun _ _ inside =>
    ⟨fun success => ⟨something _, inOrder _ (inside.output success).2⟩, inside.toolOutputs⟩

theorem assign_recordable (target value : String) :
    Evaluated.Recordable v none (s.assign v target value) := by
  have inOrder (key : String) : (Json.obj [("assign_to", .str target), ("key", .str key),
      ("value", .str (v.fill value))]).InOrder :=
    inOrder_named ["assign_to", "key", "value"] rfl (by decide) (by simp [InOrder, Json.sorted])
  unfold assign
  dsimp only
  split
  · exact recordable_ok s v (by rfl) (by simp) (inOrder _) none
  · exact recordable_ok s v (by rfl) (by simp) (inOrder _) none

theorem plan_recordable : (s.plan options v).Tells (Evaluated.Recordable v) := by
  unfold plan
  cases s.kind with
  | command tool template parameters target =>
    exact runCommand_recordable s options v template target
  | conditional condition onTrue onFalse =>
    dsimp only
    cases (if condition.holds v = true then onTrue else onFalse) with
    | none =>
      have inOrder :
          (Json.obj [("branch", .null), ("condition", .bool (condition.holds v))]).InOrder :=
        inOrder_named ["branch", "condition"] rfl (by decide) (by simp [InOrder, Json.sorted])
      exact recordable_ok s v rfl (by simp) inOrder none
    | some a =>
      exact wrapped_recordable v (by simp [branchOutput])
        (fun _ => inOrder_branchOutput _) (runAction_recordable s options v a)
  | assignment target value name => exact assign_recordable s v target value
  | choice choices =>
    cases choices with
    | nil => exact recordable_failure v rfl none
    | cons chosen rest =>
      exact wrapped_recordable v (by simp [optionOutput])
        (fun _ => inOrder_optionOutput _) (runAction_recordable s options v chosen.action)
  | analysis input extract =>
    exact recordable_ok s v rfl (by simp [analyze]) (inOrder_analyze v _ input extract) _
  | note level message =>
    exact recordable_ok s v rfl (by simp [logOutput]) (inOrder_logOutput _ _) _

end Step

end Stepwise
