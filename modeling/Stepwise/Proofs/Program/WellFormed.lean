import Stepwise.Proofs.Program.Findings
import Stepwise.Refusal
/-!
Programs that may be run. The rules find no error in a program just if it is well formed: what it
must have is there, its ids are usable, its order is known and its steps are complete.
-/

namespace Stepwise

def Action.Complete : Action → Prop
  | .command _ line _ => Text.isBlankText line = false
  | .log .. => True

instance : DecidablePred Action.Complete
  | .command _ line _ => inferInstanceAs (Decidable (Text.isBlankText line = false))
  | .log .. => inferInstanceAs (Decidable True)

def Step.Complete (s : Step) : Prop :=
  match s.kind with
  | .command _ line _ _ => Text.isBlankText line = false
  | .conditional .. => ∀ a ∈ s.actions, a.Complete
  | .assignment target _ _ => Text.isBlankText target = false
  | .choice options => options ≠ [] ∧ ∀ a ∈ s.actions, a.Complete
  | .analysis .. | .note .. => True

def Program.declaredSteps (p : Program) : List Step := p.procedures.flatMap (·.steps)

/-- Ids that are not blank, not met before and not repeated. -/
structure Usable (seen ids : List String) : Prop where
  named : ∀ id ∈ ids, Text.isBlankText id = false
  fresh : ∀ id ∈ ids, id ∉ seen
  distinct : ids.Nodup

structure Program.WellFormed (p : Program) : Prop where
  hasProcedure : p.procedures ≠ []
  hasStep : p.walk ≠ []
  procedureIds : Usable [] (p.procedures.map (·.id))
  stepIds : Usable [] (p.declaredSteps.map (·.id))
  order : ∀ id ∈ p.executionOrder, ∃ q ∈ p.procedures, q.id = id
  complete : ∀ s ∈ p.declaredSteps, s.Complete

namespace Usable

theorem nil (seen : List String) : Usable seen [] := ⟨by simp, by simp, List.nodup_nil⟩

theorem cons_iff {seen ids : List String} {id : String} :
    Usable seen (id :: ids) ↔
      Text.isBlankText id = false ∧ id ∉ seen ∧ Usable (id :: seen) ids := by
  constructor
  · rintro ⟨named, fresh, distinct⟩
    obtain ⟨absent, tail⟩ := List.nodup_cons.1 distinct
    refine ⟨named id (by simp), fresh id (by simp), fun i m => named i (by simp [m]), ?_, tail⟩
    intro i member met
    rcases List.mem_cons.1 met with rfl | before
    · exact absent member
    · exact fresh i (by simp [member]) before
  · rintro ⟨named, fresh, rest⟩
    refine ⟨?_, ?_, List.nodup_cons.2 ⟨fun m => rest.fresh id m (by simp), rest.distinct⟩⟩
    · intro i member
      rcases List.mem_cons.1 member with rfl | later
      · exact named
      · exact rest.named i later
    · intro i member met
      rcases List.mem_cons.1 member with rfl | later
      · exact fresh met
      · exact rest.fresh i later (by simp [met])

theorem congr {seen met ids : List String} (same : ∀ id, id ∈ seen ↔ id ∈ met) :
    Usable seen ids ↔ Usable met ids := by
  constructor
  · exact fun h => ⟨h.named, fun id m before => h.fresh id m ((same id).2 before), h.distinct⟩
  · exact fun h => ⟨h.named, fun id m before => h.fresh id m ((same id).1 before), h.distinct⟩

theorem append_iff {seen first second : List String} :
    Usable seen (first ++ second) ↔
      Usable seen first ∧ Usable (first.reverse ++ seen) second := by
  induction first generalizing seen with
  | nil => simp [Usable.nil]
  | cons id rest ih => simp [cons_iff, ih, and_assoc]

end Usable

namespace Validation

theorem emptyProgram_clean (p : Program) :
    emptyProgram p = [] ↔ p.procedures ≠ [] ∧ p.walk ≠ [] := by
  have count : p.stepCount = p.walk.length := rfl
  unfold emptyProgram
  split
  · next none => simp [List.isEmpty_iff.1 none]
  · next some =>
    have declared : p.procedures ≠ [] := fun none => some (List.isEmpty_iff.2 none)
    split
    · next zero => simp [List.eq_nil_of_length_eq_zero (count ▸ zero)]
    · next positive =>
      have steps : p.walk ≠ [] := fun none => positive (by rw [count, none]; rfl)
      simp [declared, steps]

theorem stepIds_clean (procedureId : String) (seen : List String) (l : List Step) :
    (stepIds procedureId seen l).1 = [] ↔ Usable seen (l.map (·.id)) := by
  induction l generalizing seen with
  | nil => simp [stepIds, Usable.nil]
  | cons s rest ih =>
    rw [stepIds, List.map_cons, Usable.cons_iff]
    split
    · next blank => simp [blank]
    · next named =>
      split
      · next met => simp [List.contains_iff_mem.1 met]
      · next fresh =>
        have absent : s.id ∉ seen := fun m => fresh (List.contains_iff_mem.2 m)
        simp [ih, named, absent]

theorem stepIds_seen {procedureId : String} {seen : List String} {l : List Step}
    (usable : Usable seen (l.map (·.id))) :
    (stepIds procedureId seen l).2 = (l.map (·.id)).reverse ++ seen := by
  induction l generalizing seen with
  | nil => rfl
  | cons s rest ih =>
    obtain ⟨named, fresh, tail⟩ := Usable.cons_iff.1 usable
    have unmet : seen.contains s.id = false := by simpa using fresh
    simp only [stepIds, named, unmet, Bool.false_eq_true, if_false]
    rw [ih tail]
    simp

theorem procedureIds_clean (procedures steps : List String) (l : List Procedure) :
    procedureIds procedures steps l = [] ↔
      Usable procedures (l.map (·.id)) ∧ Usable steps ((l.flatMap (·.steps)).map (·.id)) := by
  induction l generalizing procedures steps with
  | nil => simp [procedureIds, Usable.nil]
  | cons q rest ih =>
    simp only [procedureIds, List.append_eq_nil_iff, List.map_cons, List.flatMap_cons,
      List.map_append, Usable.cons_iff, Usable.append_iff, stepIds_clean, ih]
    by_cases usable : Usable steps (q.steps.map (·.id))
    · rw [stepIds_seen usable]
      by_cases blank : Text.isBlankText q.id = true
      · simp [blank]
      · by_cases met : q.id ∈ procedures
        · simp [blank, met]
        · simp [blank, met, usable]
    · simp [usable]

theorem unknownProcedure_clean (p : Program) :
    unknownProcedure p = [] ↔ ∀ id ∈ p.executionOrder, ∃ q ∈ p.procedures, q.id = id := by
  simp [unknownProcedure, Program.procedure?, List.filter_eq_nil_iff]

theorem actionProblem?_none (a : Action) : actionProblem? a = none ↔ a.Complete := by
  cases a with
  | command tool line target => simp [actionProblem?, Action.Complete]
  | log message level => simp [actionProblem?, Action.Complete]

theorem actionProblem?_some {a : Action} (lacking : ¬ a.Complete) :
    actionProblem? a = some .blankActionCommand := by
  cases a with
  | command tool line target => exact if_pos (by simpa [Action.Complete] using lacking)
  | log message level => exact absurd trivial lacking

theorem stepProblems_nil (s : Step) : stepProblems s = [] ↔ s.Complete := by
  unfold stepProblems Step.Complete
  cases s.kind with
  | command tool line parameters target => simp
  | conditional condition onTrue onFalse => simp [actionProblem?_none]
  | assignment target value name => simp
  | choice options => simp [actionProblem?_none]
  | analysis input extract => simp
  | note level message => simp

theorem stepFields_clean (p : Program) :
    stepFields p = [] ↔ ∀ s ∈ p.declaredSteps, s.Complete := by
  simp only [stepFields, Program.declaredSteps, List.flatMap_eq_nil_iff, List.map_eq_nil_iff,
    stepProblems_nil, List.mem_flatMap]
  constructor
  · rintro clean s ⟨q, declared, member⟩
    exact clean q declared s member
  · intro complete q declared s member
    exact complete s ⟨q, declared, member⟩

end Validation

namespace Program

open Validation

theorem check_ok_iff (p : Program) : (∃ found, p.check = .ok found) ↔ p.WellFormed := by
  have clean : p.diagnostics.filter (·.isError) = [] ↔ p.WellFormed := by
    rw [errors_eq]
    simp only [List.append_eq_nil_iff, emptyProgram_clean, unknownProcedure_clean,
      stepFields_clean, duplicateId, procedureIds_clean]
    constructor
    · rintro ⟨⟨⟨⟨declared, steps⟩, procedureIds, stepIds⟩, order⟩, complete⟩
      exact ⟨declared, steps, procedureIds, stepIds, order, complete⟩
    · rintro ⟨declared, steps, procedureIds, stepIds, order, complete⟩
      exact ⟨⟨⟨⟨declared, steps⟩, procedureIds, stepIds⟩, order⟩, complete⟩
  rw [← clean]
  unfold check
  split
  · next none => simp [none]
  · next found => simpa using found

theorem wellFormed_of_check {p : Program} {found : List Diagnostic} (ok : p.check = .ok found) :
    p.WellFormed :=
  p.check_ok_iff.1 ⟨found, ok⟩

/-- One procedure is listed twice, one has no steps, and what a branch runs depends on what a
command has put out. -/
def greeting : Program where
  name := "greeting"
  tools := ["sh"]
  procedures := [
    ⟨"main", "", [
      ⟨"say", "", .command "sh" "echo ${word}" ∅ (some "said")⟩,
      ⟨"act", "", .conditional (.equality "said" "hello")
        (some (.command "sh" "echo rm -rf $said" none)) none⟩]⟩,
    ⟨"pause", "", []⟩,
    ⟨"end", "", [⟨"keep", "", .assignment "memory" "$said" (some "last")⟩]⟩]
  executionOrder := ["main", "pause", "end", "end"]
  globalMemory := Table.ofList [("word", .str "hello")]
  errorHandling := .standard

theorem greeting_wellFormed : greeting.WellFormed where
  hasProcedure := by simp [greeting]
  hasStep := by decide
  procedureIds := ⟨by decide, by decide, by decide⟩
  stepIds := ⟨by decide, by decide, by decide⟩
  order := by decide
  complete := (Validation.stepFields_clean greeting).1 (by decide)

end Program

end Stepwise
