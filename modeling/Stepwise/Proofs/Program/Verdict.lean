import Stepwise.Proofs.Program.Asked
import Stepwise.Proofs.Program.WellFormed
import Stepwise.Proofs.Table
/-!
The verdict on a program as a whole: which programs pass, what is said of those that do, and what
is said of those that do not. What each rule reports is told here from the program alone, place by
place.
-/

namespace Stepwise

namespace Validation

/-- What is reported of every entry of a list, each judged by the entries before it. -/
def eachAfter {α : Type} (report : List α → α → List Diagnostic) (l : List α) : List Diagnostic :=
  (List.range l.length).flatMap fun k =>
    match l[k]? with
    | some x => report (l.take k) x
    | none => []

def ofProcedureId (earlier : List String) (id : String) : List Diagnostic :=
  if Text.isBlankText id then [⟨.program, .blankProcedureId⟩]
  else if id ∈ earlier then [⟨.procedure id, .duplicateProcedure id⟩]
  else []

def ofStepId (procedureId : String) (earlier : List String) (id : String) : List Diagnostic :=
  if Text.isBlankText id then [⟨.procedure procedureId, .blankStepId⟩]
  else if id ∈ earlier then [⟨.step procedureId id, .duplicateStep id⟩]
  else []

/-- What is wrong with the id of a procedure and with those of its steps, given the procedures
declared before it: an id is wrong where it is blank or has occurred before. -/
def ofIds (before : List Procedure) (q : Procedure) : List Diagnostic :=
  ofProcedureId (before.map (·.id)) q.id ++
    eachAfter (fun earlier s =>
      ofStepId q.id ((before.flatMap (·.steps) ++ earlier).map (·.id)) s.id) q.steps

theorem eachAfter_cons {α : Type} (report : List α → α → List Diagnostic) (x : α) (rest : List α) :
    eachAfter report (x :: rest) =
      report [] x ++ eachAfter (fun before => report (x :: before)) rest := by
  rw [eachAfter, List.length_cons, List.range_succ_eq_map, List.flatMap_cons, List.flatMap_map]
  rfl

/-- Of the ids that are not blank, those met are those that occur in a list. -/
def Met (seen earlier : List String) : Prop :=
  ∀ id, Text.isBlankText id = false → (id ∈ seen ↔ id ∈ earlier)

namespace Met

variable {seen earlier : List String} {id : String}

theorem took (met : Met seen earlier) : Met (id :: seen) (earlier ++ [id]) := by
  intro other named
  have before := met other named
  simp only [List.mem_cons, List.mem_append, List.not_mem_nil, or_false, before]
  exact or_comm

theorem passed (met : Met seen earlier) (known : Text.isBlankText id = true ∨ id ∈ seen) :
    Met seen (earlier ++ [id]) := by
  intro other named
  have before := met other named
  simp only [List.mem_append, List.mem_singleton, ← before]
  constructor
  · exact Or.inl
  · rintro (old | rfl)
    · exact old
    · rcases known with blank | old
      · simp [named] at blank
      · exact old

end Met

theorem stepIds_eq (procedureId : String) {seen earlier : List String} (l : List Step)
    (met : Met seen earlier) :
    (stepIds procedureId seen l).1 =
        eachAfter (fun before s => ofStepId procedureId (earlier ++ before.map (·.id)) s.id) l ∧
      Met (stepIds procedureId seen l).2 (earlier ++ l.map (·.id)) := by
  induction l generalizing seen earlier with
  | nil => exact ⟨rfl, by simpa [stepIds] using met⟩
  | cons s rest ih =>
    have shift (before : List Step) : earlier ++ (s :: before).map (·.id) =
        earlier ++ [s.id] ++ before.map (·.id) := by simp
    simp only [eachAfter_cons, shift, List.map_nil, List.append_nil]
    rw [stepIds]
    split
    · next blank =>
      obtain ⟨found, after⟩ := ih (met.passed (.inl blank))
      exact ⟨by simp [found, ofStepId, blank], after⟩
    · next named =>
      have named : Text.isBlankText s.id = false := by simpa using named
      split
      · next old =>
        have old := List.contains_iff_mem.1 old
        obtain ⟨found, after⟩ := ih (met.passed (.inr old))
        exact ⟨by simp [found, ofStepId, named, (met s.id named).1 old], after⟩
      · next fresh =>
        have fresh : s.id ∉ earlier := fun old =>
          fresh (List.contains_iff_mem.2 ((met s.id named).2 old))
        obtain ⟨found, after⟩ := ih met.took
        exact ⟨by simp [found, ofStepId, named, fresh], after⟩

theorem procedureIds_eq {procedures steps : List String} (l before : List Procedure)
    (metProcedures : Met procedures (before.map (·.id)))
    (metSteps : Met steps ((before.flatMap (·.steps)).map (·.id))) :
    procedureIds procedures steps l = eachAfter (fun later => ofIds (before ++ later)) l := by
  induction l generalizing procedures steps before with
  | nil => rfl
  | cons q rest ih =>
    obtain ⟨found, after⟩ := stepIds_eq q.id q.steps metSteps
    have own : (if Text.isBlankText q.id then [⟨.program, .blankProcedureId⟩]
        else if procedures.contains q.id then [⟨.procedure q.id, .duplicateProcedure q.id⟩]
        else []) = ofProcedureId (before.map (·.id)) q.id := by
      unfold ofProcedureId
      split
      · rfl
      · next named =>
        have known := metProcedures q.id (by simpa using named)
        simp only [List.contains_iff_mem, known]
    have rest_eq := ih (before ++ [q]) (by simpa using metProcedures.took) (by simpa using after)
    rw [procedureIds, eachAfter_cons]
    simp only [own, found, rest_eq]
    simp [ofIds]

theorem duplicateId_eq (p : Program) : duplicateId p = eachAfter ofIds p.procedures :=
  procedureIds_eq p.procedures [] (by simp [Met]) (by simp [Met])

example : ofIds [] ⟨"main", "", List.replicate 3 ⟨"say", "", .note .info "hi"⟩⟩ =
    List.replicate 2 ⟨.step "main" "say", .duplicateStep "say"⟩ := by decide

def ofSteps (p : Program) : List Diagnostic :=
  if p.procedures = [] then [⟨.program, .noProcedures⟩]
  else if p.walk = [] then [⟨.program, .noSteps⟩]
  else []

theorem emptyProgram_eq (p : Program) : emptyProgram p = ofSteps p := by
  have count : p.stepCount = 0 ↔ p.walk = [] := List.length_eq_zero_iff
  simp only [emptyProgram, ofSteps, List.isEmpty_iff, count]

def ofOrder (p : Program) : List Diagnostic :=
  (p.executionOrder.filter fun id => id ∉ p.procedures.map (·.id)).map fun id =>
    ⟨.program, .unknownProcedure id⟩

theorem unknownProcedure_eq (p : Program) : unknownProcedure p = ofOrder p := by
  rw [unknownProcedure, ofOrder]
  congr 1
  refine List.filter_congr fun id _ => ?_
  rw [Program.procedure?, Bool.eq_iff_iff]
  simp

/-- What a step must say and does not. -/
def lacks (s : Step) : List Problem :=
  match s.kind with
  | .command _ line _ _ => if Text.isBlankText line then [.blankCommand] else []
  | .assignment target _ _ => if Text.isBlankText target then [.blankTarget] else []
  | .choice [] => [.noOptions]
  | .choice (_ :: _) | .conditional .. =>
    List.replicate (s.actions.countP fun a => ¬ a.Complete) .blankActionCommand
  | .analysis .. | .note .. => []

theorem filterMap_actionProblem? (actions : List Action) :
    actions.filterMap actionProblem? =
      List.replicate (actions.countP fun a => ¬ a.Complete) .blankActionCommand := by
  induction actions with
  | nil => rfl
  | cons a rest ih =>
    by_cases complete : a.Complete
    · rw [List.filterMap_cons, (actionProblem?_none a).2 complete]
      simp [ih, complete]
    · rw [List.filterMap_cons, actionProblem?_some complete]
      simp [ih, complete, List.replicate_succ]

theorem stepProblems_eq (s : Step) : stepProblems s = lacks s := by
  unfold stepProblems lacks
  cases kind : s.kind with
  | command tool line parameters target => rfl
  | conditional condition onTrue onFalse => exact filterMap_actionProblem? s.actions
  | assignment target value key => rfl
  | choice options =>
    cases options with
    | nil =>
      have none : s.actions = [] := by simp [Step.actions, kind]
      simp [none]
    | cons chosen others => exact filterMap_actionProblem? s.actions
  | analysis input extract => rfl
  | note level message => rfl

def ofFields (p : Program) : List Diagnostic :=
  p.procedures.flatMap fun q =>
    q.steps.flatMap fun s => (lacks s).map fun problem => ⟨.step q.id s.id, problem⟩

theorem stepFields_eq (p : Program) : stepFields p = ofFields p := by
  simp only [stepFields, ofFields, stepProblems_eq]

end Validation

namespace Program

open Validation

theorem warnings_eq (p : Program) (clean : p.diagnostics.filter (·.isError) = []) :
    p.diagnostics = undefinedVariable p := by
  have empty := p.errors_eq ▸ clean
  simp only [List.append_eq_nil_iff] at empty
  obtain ⟨⟨⟨noEmpty, noDuplicate⟩, noUnknown⟩, noField⟩ := empty
  simp [diagnostics, Rule.all, applyRule, noEmpty, noDuplicate, noUnknown, noField]

/-- What the check makes of a program, whatever the program. A program that passes is warned of the
names that its steps ask for before anything can have set them; of any other it is said what is
wrong, rule by rule. -/
theorem check_verdict (p : Program) :
    ((∃ found, p.check = .ok found) ↔ p.WellFormed) ∧
    match p.check with
    | .ok found =>
      (∀ others, Warned (fun name => p.globalMemory.contains name = true) p.located others ↔
        others = found) ∧
      ∀ d ∈ found, d.isError = false ∧ d.Reads d.describe
    | .error refusal => ∃ errors texts,
      errors = ofSteps p ++ eachAfter ofIds p.procedures ++ ofOrder p ++ ofFields p ∧
      (∀ d ∈ errors, d.isError = true) ∧
      List.Forall₂ Diagnostic.Reads errors texts ∧
      refusal.message = "Validation error: " ++ "; ".intercalate texts := by
  refine ⟨p.check_ok_iff, ?_⟩
  rw [check]
  cases listed : p.diagnostics.filter (·.isError) with
  | nil =>
    have warnings := p.warnings_eq listed
    refine ⟨fun others => ?_, fun d member => ⟨?_, reads_of_diagnostics member⟩⟩
    · rw [warnings]
      exact warned_iff fun name => Table.contains_iff_mem_keys _ _
    · simpa using List.filter_eq_nil_iff.1 listed d member
  | cons first rest =>
    have member : ∀ d ∈ first :: rest, d ∈ p.diagnostics ∧ d.isError = true := by
      intro d here
      rw [← listed] at here
      exact List.mem_filter.1 here
    refine ⟨first :: rest, _, ?_, fun d here => (member d here).2, ?_, rfl⟩
    · rw [← listed, errors_eq, emptyProgram_eq, duplicateId_eq, unknownProcedure_eq, stepFields_eq]
    · rw [List.forall₂_map_right_iff]
      exact List.forall₂_same.2 fun d here => reads_of_diagnostics (member d here).1

end Program

end Stepwise
