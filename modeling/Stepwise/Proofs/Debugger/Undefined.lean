import Stepwise.Proofs.Program.Warnings
import Stepwise.Proofs.Debugger.Rest
import Stepwise.Proofs.Run.Writes
/-!
Warnings of undefined variables hold good while a program is run. Whatever has happened to a run,
the names that stand for something are among those that the program's memory and the steps before
its cursor define; so a name that is reported of the step under the cursor stands for nothing there.
-/

namespace Stepwise

open Validation

theorem Variables.find?_initial (p : Program) (name : String) :
    (RunState.initial p).vars.find? name =
      (p.globalMemory.get? name).map fun value => (value.variableText, .persistentMemory) := by
  have frame : (RunState.initial p).vars.frame.get? name = none := Table.get?_empty name
  have outputs : (RunState.initial p).vars.toolOutputs.get? name = none := Table.get?_empty name
  have memory : (RunState.initial p).vars.memory.get? name =
      (p.globalMemory.get? name).map Json.variableText := Table.get?_map _ _ _
  rw [find?, frame, memory, outputs]
  cases p.globalMemory.get? name with
  | none => rfl
  | some value => rfl

namespace Debugger

/-- A run in which only those names stand for something that can have been defined. -/
structure Covered (p : Program) (maxSteps : Nat) (d : Debugger) : Prop
    extends AtRest p maxSteps d where
  defined : ∀ name, (d.state.vars.find? name).isSome = true →
    name ∈ p.definedBefore d.state.stepsExecuted

namespace Covered

variable {σ : Type} {h : Host σ} {p : Program} {maxSteps : Nat} {d : Debugger}

theorem start (valid : p.WellFormed) (analysis : Option Analysis) (options : Options) :
    Covered p maxSteps (.start p analysis options maxSteps) where
  toAtRest := .start valid analysis options
  defined name bound := by
    change ((RunState.initial p).vars.find? name).isSome = true at bound
    rw [Variables.find?_initial, Option.isSome_map] at bound
    exact List.mem_append_left _ ((Table.contains_iff_mem_keys _ _).1 bound)

theorem advance {world after : σ} {c : Cursor} {step : Step} {e : Evaluated}
    (covered : Covered p maxSteps d) (valid : p.WellFormed)
    (evaluates : Evaluates h d world c step e after) (success : e.result.success = true)
    (span : Span) :
    Covered p maxSteps ((d.evaluated e span).advance c) where
  toAtRest := covered.toAtRest.advance evaluates success span
  defined name bound := by
    have accounted := (step.plan_tells d.options d.state.vars).outcome evaluates.outcome
    change (e.vars.find? name).isSome = true at bound
    change name ∈ p.definedBefore (d.state.stepsExecuted + 1)
    obtain ⟨s, found, onWalk⟩ := covered.step_found valid evaluates.current
    rw [← covered.program, evaluates.found] at found
    obtain rfl := Option.some.inj found
    rw [Program.definedBefore_succ onWalk, List.mem_append]
    by_cases declared : name ∈ step.definedVariables
    · exact .inr declared
    · rw [accounted.vars, Variables.find?_writeAll] at bound
      · exact .inl (covered.defined name bound)
      · rintro w written rfl
        exact declared (Step.writes_defined written).1

theorem step {world after : σ} {result : Option StepResult} {next : Debugger}
    (covered : Covered p maxSteps d) (valid : p.WellFormed)
    (moved : StepOver h d world result next after) : Covered p maxSteps next := by
  have rest := covered.toAtRest.step valid moved
  cases moved with
  | stands final => exact covered
  | ends | limited | lost => exact ⟨rest, covered.defined⟩
  | succeeds evaluates success => exact covered.advance valid evaluates success _
  | fails evaluates failure unchanged =>
    exact ⟨rest, fun name bound => covered.defined name (unchanged ▸ bound)⟩

theorem kept (h : Host σ) (valid : p.WellFormed) (maxSteps : Nat) :
    Kept h fun d _ => Covered p maxSteps d where
  stepOver {d world} covered := covered.step valid (stepOver_cases h d world)
  pause covered := by rwa [pause_eq covered.notRunning]
  reset covered := by
    rw [reset_eq_start, covered.program, covered.limit]
    exact start valid _ _
  evaluate _ covered := covered
  breakpoint covered set := by
    refine ⟨covered.toAtRest.setBreakpoint set, ?_⟩
    obtain ⟨-, rfl⟩ := setBreakpoint_ok set
    exact covered.defined
  riskLevel {d _} level covered := by
    refine ⟨covered.toAtRest.setRiskLevel level, ?_⟩
    obtain ⟨status, failure, set⟩ := setRiskLevel_state d level
    rw [set]
    exact covered.defined
  wait covered := covered

theorem run (valid : p.WellFormed) (analysis : Option Analysis) (options : Options)
    (ops : List Operation) (world : σ) :
    Covered p maxSteps ((Debugger.start p analysis options maxSteps).operateAll h ops world).1 :=
  (kept h valid maxSteps).operateAll ops (start valid analysis options)

end Covered

end Debugger

/-- The rule reports position by position. A name that it reports at a position, once, stands for
nothing whenever the cursor of a run is there. -/
theorem reported_names_undefined {σ : Type} (h : Host σ) {p : Program} {found : List Diagnostic}
    (ok : p.check = .ok found) :
    undefinedVariable p = (List.range p.walk.length).flatMap (reportsAt p) ∧
      ∀ k, (reportsAt p k).Nodup ∧ ∀ d ∈ reportsAt p k, ∃ name,
        d.problem = .undefinedVariable name ∧
          ∀ (analysis : Option Analysis) (options : Options) (maxSteps : Nat)
            (ops : List Operation) (world : σ),
            let s := ((Debugger.start p analysis options maxSteps).operateAll h ops world).1.state
            ∀ c, s.current = some c → c.instructionPointer = k → s.vars.find? name = none := by
  refine ⟨undefinedVariable_eq p, fun k => ⟨reportsAt_nodup p k, fun d member => ?_⟩⟩
  obtain ⟨name, problem, undefined⟩ := reportsAt_undefined member
  refine ⟨name, problem, ?_⟩
  intro analysis options maxSteps ops world s c current here
  have covered : Debugger.Covered p maxSteps
      ((Debugger.start p analysis options maxSteps).operateAll h ops world).1 :=
    .run (Program.wellFormed_of_check ok) analysis options ops world
  have pointer := Cursor.place_pointer (covered.current.symm.trans current)
  rw [← here, pointer] at undefined
  exact Option.not_isSome_iff_eq_none.1 (mt (covered.defined name) undefined)

def Program.hasty : Program where
  name := "hasty"
  tools := ["sh"]
  procedures := [
    ⟨"main", "", [
      ⟨"ask", "", .note .info "$later and $later"⟩,
      ⟨"pick", "", .choice [
        ⟨"", .command "sh" "echo $later ${never}" (some "later")⟩,
        ⟨"", .command "sh" "true" (some "other")⟩]⟩,
      ⟨"tell", "", .note .info "$later, $other, $never"⟩]⟩]
  executionOrder := []
  globalMemory := ∅
  errorHandling := .standard

theorem Program.hasty_wellFormed : hasty.WellFormed where
  hasProcedure := by simp [hasty]
  hasStep := by decide
  procedureIds := ⟨by decide, by decide, by decide⟩
  stepIds := ⟨by decide, by decide, by decide⟩
  order := by decide
  complete := (Validation.stepFields_clean hasty).1 (by decide)

theorem hasty_undefined : ∃ found, Program.hasty.check = .ok found ∧
    reportsAt .hasty 1 =
        [⟨.step "main" "pick", .undefinedVariable "later"⟩,
          ⟨.step "main" "pick", .undefinedVariable "never"⟩] ∧
      ∀ d ∈ reportsAt .hasty 1, ∃ name, d.problem = .undefinedVariable name ∧
        (((Debugger.start .hasty none Options.standard 5).operateAll .echoing
          [.command .resume, .command .reset, .command .stepOver] 0).1.state.vars.find? name) =
            none := by
  obtain ⟨found, ok⟩ := (Program.check_ok_iff .hasty).2 Program.hasty_wellFormed
  refine ⟨found, ok, by decide +kernel, fun d member => ?_⟩
  obtain ⟨name, problem, undefined⟩ :=
    ((reported_names_undefined .echoing ok).2 1).2 d member
  exact ⟨name, problem, undefined none Options.standard 5 _ 0 _ rfl (by decide +kernel)⟩

end Stepwise
