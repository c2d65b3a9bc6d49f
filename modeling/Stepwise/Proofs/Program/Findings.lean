import Stepwise.Program.Validation
/-!
What the rules say. Each rule has a few things to say, each of them at places of one kind, and all
but the last of the rules find errors only.
-/

namespace Stepwise

namespace Diagnostic

def line (gravity place message rule : String) : String :=
  gravity ++ " at " ++ place ++ ": " ++ message ++ " [" ++ rule ++ "]"

/-- Where a diagnostic can stand, and the line that it reads as. -/
inductive Reads : Diagnostic → String → Prop
  | noProcedures :
      Reads ⟨.program, .noProcedures⟩
        (line "error" "program" "Program has no procedures" "empty-program")
  | noSteps :
      Reads ⟨.program, .noSteps⟩
        (line "error" "program" "Program has no executable steps" "empty-program")
  | blankProcedureId :
      Reads ⟨.program, .blankProcedureId⟩
        (line "error" "program" "Procedure id must not be empty" "duplicate-id")
  | duplicateProcedure {id : String} :
      Reads ⟨.procedure id, .duplicateProcedure id⟩
        (line "error" id ("Duplicate procedure id '" ++ id ++ "'") "duplicate-id")
  | blankStepId {procedureId : String} :
      Reads ⟨.procedure procedureId, .blankStepId⟩
        (line "error" procedureId "Step id must not be empty" "duplicate-id")
  | duplicateStep {procedureId id : String} :
      Reads ⟨.step procedureId id, .duplicateStep id⟩
        (line "error" (procedureId ++ "/" ++ id) ("Duplicate step id '" ++ id ++ "'")
          "duplicate-id")
  | unknownProcedure {id : String} :
      Reads ⟨.program, .unknownProcedure id⟩
        (line "error" "program" ("execution_order references unknown procedure '" ++ id ++ "'")
          "unknown-procedure")
  | blankCommand {procedureId id : String} :
      Reads ⟨.step procedureId id, .blankCommand⟩
        (line "error" (procedureId ++ "/" ++ id) "command step has an empty command"
          "step-fields")
  | blankActionCommand {procedureId id : String} :
      Reads ⟨.step procedureId id, .blankActionCommand⟩
        (line "error" (procedureId ++ "/" ++ id) "command action has an empty command"
          "step-fields")
  | blankTarget {procedureId id : String} :
      Reads ⟨.step procedureId id, .blankTarget⟩
        (line "error" (procedureId ++ "/" ++ id) "assignment step has an empty assign_to"
          "step-fields")
  | noOptions {procedureId id : String} :
      Reads ⟨.step procedureId id, .noOptions⟩
        (line "error" (procedureId ++ "/" ++ id) "choice step has no options" "step-fields")
  | undefinedVariable {procedureId id name : String} :
      Reads ⟨.step procedureId id, .undefinedVariable name⟩
        (line "warning" (procedureId ++ "/" ++ id)
          ("Variable '" ++ name ++ "' is used before it is assigned") "undefined-variable")

structure Of (rule : Rule) (d : Diagnostic) : Prop where
  rule : d.problem.rule = rule
  reads : d.Reads d.describe

theorem Of.isError {rule : Rule} {d : Diagnostic} (found : d.Of rule) :
    d.isError = decide (rule ≠ .undefinedVariable) := by
  rw [← found.rule, Diagnostic.isError]
  cases d.problem with
  | _ => rfl

end Diagnostic

namespace Validation

theorem emptyProgram_of {p : Program} {d : Diagnostic} (member : d ∈ emptyProgram p) :
    d.Of .emptyProgram := by
  unfold emptyProgram at member
  split at member
  · obtain rfl := List.mem_singleton.1 member
    exact ⟨rfl, .noProcedures⟩
  · split at member
    · obtain rfl := List.mem_singleton.1 member
      exact ⟨rfl, .noSteps⟩
    · simp at member

theorem stepIds_of {procedureId : String} {seen : List String} {l : List Step} {d : Diagnostic}
    (member : d ∈ (stepIds procedureId seen l).1) : d.Of .duplicateId := by
  induction l generalizing seen with
  | nil => simp [stepIds] at member
  | cons s rest ih =>
    rw [stepIds] at member
    split at member
    · rcases List.mem_cons.1 member with rfl | later
      · exact ⟨rfl, .blankStepId⟩
      · exact ih later
    · split at member
      · rcases List.mem_cons.1 member with rfl | later
        · exact ⟨rfl, .duplicateStep⟩
        · exact ih later
      · exact ih member

theorem procedureIds_of {procedures steps : List String} {l : List Procedure} {d : Diagnostic}
    (member : d ∈ procedureIds procedures steps l) : d.Of .duplicateId := by
  induction l generalizing procedures steps with
  | nil => simp [procedureIds] at member
  | cons q rest ih =>
    simp only [procedureIds, List.mem_append] at member
    rcases member with (own | found) | later
    · split at own
      · obtain rfl := List.mem_singleton.1 own
        exact ⟨rfl, .blankProcedureId⟩
      · split at own
        · obtain rfl := List.mem_singleton.1 own
          exact ⟨rfl, .duplicateProcedure⟩
        · simp at own
    · exact stepIds_of found
    · exact ih later

theorem actionProblem?_of {a : Action} {problem : Problem} (found : actionProblem? a = some problem)
    (procedureId id : String) : Diagnostic.Of .stepFields ⟨.step procedureId id, problem⟩ := by
  cases a with
  | command tool line target =>
    simp only [actionProblem?, Option.ite_none_right_eq_some, Option.some.injEq] at found
    obtain ⟨-, rfl⟩ := found
    exact ⟨rfl, .blankActionCommand⟩
  | log message level => simp [actionProblem?] at found

theorem stepProblems_of {s : Step} {problem : Problem} (member : problem ∈ stepProblems s)
    (procedureId id : String) : Diagnostic.Of .stepFields ⟨.step procedureId id, problem⟩ := by
  have ofActions (found : problem ∈ s.actions.filterMap actionProblem?) :
      Diagnostic.Of .stepFields ⟨.step procedureId id, problem⟩ := by
    obtain ⟨a, -, found⟩ := List.mem_filterMap.1 found
    exact actionProblem?_of found procedureId id
  unfold stepProblems at member
  split at member
  · split at member
    · obtain rfl := List.mem_singleton.1 member
      exact ⟨rfl, .blankCommand⟩
    · simp at member
  · exact ofActions member
  · split at member
    · obtain rfl := List.mem_singleton.1 member
      exact ⟨rfl, .blankTarget⟩
    · simp at member
  · rcases List.mem_append.1 member with empty | member
    · split at empty
      · obtain rfl := List.mem_singleton.1 empty
        exact ⟨rfl, .noOptions⟩
      · simp at empty
    · exact ofActions member
  · simp at member
  · simp at member

theorem undefinedFrom_of {defined : List String} {l : List (String × Step)} {d : Diagnostic}
    (member : d ∈ undefinedFrom defined l) : d.Of .undefinedVariable := by
  induction l generalizing defined with
  | nil => simp [undefinedFrom] at member
  | cons head rest ih =>
    obtain ⟨procedureId, s⟩ := head
    rw [undefinedFrom] at member
    rcases List.mem_append.1 member with own | later
    · obtain ⟨n, _, rfl⟩ := List.mem_map.1 own
      exact ⟨rfl, .undefinedVariable⟩
    · exact ih later

theorem applyRule_of {p : Program} {rule : Rule} {d : Diagnostic} (member : d ∈ applyRule p rule) :
    d.Of rule := by
  cases rule with
  | emptyProgram => exact emptyProgram_of member
  | duplicateId => exact procedureIds_of member
  | unknownProcedure =>
    obtain ⟨id, _, rfl⟩ := List.mem_map.1 member
    exact ⟨rfl, .unknownProcedure⟩
  | stepFields =>
    obtain ⟨q, _, member⟩ := List.mem_flatMap.1 member
    obtain ⟨s, _, member⟩ := List.mem_flatMap.1 member
    obtain ⟨problem, found, rfl⟩ := List.mem_map.1 member
    exact stepProblems_of found q.id s.id
  | undefinedVariable => exact undefinedFrom_of member

theorem errors_of_rule (p : Program) (rule : Rule) :
    (applyRule p rule).filter (·.isError) =
      if rule = .undefinedVariable then [] else applyRule p rule := by
  split
  · next warning =>
    refine List.filter_eq_nil_iff.2 fun d member => ?_
    simp [(applyRule_of member).isError, warning]
  · next error =>
    refine List.filter_eq_self.2 fun d member => ?_
    simp [(applyRule_of member).isError, error]

end Validation

namespace Program

open Validation

theorem reads_of_diagnostics {p : Program} {d : Diagnostic} (member : d ∈ p.diagnostics) :
    d.Reads d.describe := by
  obtain ⟨rule, -, found⟩ := List.mem_flatMap.1 member
  exact (applyRule_of found).reads

theorem errors_eq (p : Program) :
    p.diagnostics.filter (·.isError) =
      emptyProgram p ++ duplicateId p ++ unknownProcedure p ++ stepFields p := by
  simp only [diagnostics, Rule.all, List.flatMap_cons, List.flatMap_nil, List.filter_append,
    errors_of_rule]
  simp [applyRule]

end Program

end Stepwise
