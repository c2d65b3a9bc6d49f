import Stepwise.Proofs.Debugger.Environment
import Stepwise.Proofs.Program.WellFormed
/-!
Blank names of variables. The target of an assignment is checked before a program may be run, and a
blank key to persistent memory gives way to the id of its step; the target of a command is not
checked. So whatever a run defines under a blank name is the output of a command, and a run of a
program whose commands have usable targets defines usable names alone.
-/

namespace Stepwise

open Text (isBlankText)

def Step.outputNames (s : Step) : List String :=
  match s.kind with
  | .command _ _ _ target => target.toList
  | _ => s.actionTargets

namespace Write

theorem latest_isSome_iff {tells : Write → Option α} {writes : List Write} :
    (latest tells writes).isSome = true ↔ ∃ w ∈ writes, (tells w).isSome = true := by
  simp only [latest, List.findSome?_isSome_iff, List.mem_reverse]

theorem output?_isSome_iff {w : Write} {name : String} :
    (w.output? name).isSome = true ↔ ∃ o, w = .output name o := by
  cases w with
  | output other o => simp [output?, Option.isSome_ite, @eq_comm _ name other]
  | frame other value => simp [output?]
  | memory key value => simp [output?]

theorem frame?_isSome_iff {w : Write} {name : String} :
    (w.frame? name).isSome = true ↔
      (∃ o, w = .output name o) ∨ ∃ value, w = .frame name value := by
  cases w with
  | output other o => simp [frame?, Option.isSome_ite, @eq_comm _ name other]
  | frame other value => simp [frame?, Option.isSome_ite, @eq_comm _ name other]
  | memory key value => simp [frame?]

theorem memory?_isSome_iff {w : Write} {name : String} :
    (w.memory? name).isSome = true ↔ ∃ value, w = .memory name value := by
  cases w with
  | output other o => simp [memory?]
  | frame other value => simp [memory?]
  | memory key value => simp [memory?, Option.isSome_ite, @eq_comm _ name key]

end Write

theorem Answer.writes_output {v : Variables} {template : String} {target : Option String}
    {answer : Option Answer} {w : Write} (written : w ∈ Answer.writes v template target answer) :
    ∃ output, w = .output w.name output := by
  unfold Answer.writes at written
  split at written
  · split at written
    · obtain ⟨name, _, rfl⟩ := List.mem_map.1 written
      exact ⟨_, rfl⟩
    · simp at written
  · simp at written

theorem Action.writes_output {v : Variables} {answer : Option Answer} {a : Action} {w : Write}
    (written : w ∈ a.writes v answer) : ∃ output, w = .output w.name output := by
  cases a with
  | command tool template target => exact Answer.writes_output written
  | log message level => simp [writes] at written

namespace Step

variable {s : Step} {v : Variables} {answer : Option Answer} {w : Write}

theorem writes_output_or_assigned (written : w ∈ s.writes v answer) :
    (∃ output, w = .output w.name output) ∨
      ∃ target value name, s.kind = .assignment target value name := by
  unfold writes at written
  cases kind : s.kind with
  | command tool template parameters target =>
    simp only [kind] at written
    exact .inl (Answer.writes_output written)
  | conditional condition onTrue onFalse =>
    simp only [kind] at written
    split at written
    · exact .inl (Action.writes_output written)
    · simp at written
  | assignment target value name => exact .inr ⟨target, value, name, rfl⟩
  | choice choices =>
    simp only [kind] at written
    cases choices with
    | nil => simp at written
    | cons chosen rest => exact .inl (Action.writes_output written)
  | analysis input extract => simp [kind] at written
  | note level message => simp [kind] at written

theorem memoryKey_usable (named : isBlankText s.id = false) : isBlankText s.memoryKey = false := by
  unfold memoryKey
  split
  · next name _ =>
    split
    · exact named
    · next usable => exact Bool.not_eq_true _ ▸ usable
  · exact named

theorem Complete.blank_defined (complete : s.Complete) (named : isBlankText s.id = false)
    {name : String} (defined : name ∈ s.definedVariables) (blank : isBlankText name = true) :
    name ∈ s.outputNames := by
  unfold definedVariables at defined
  unfold outputNames
  cases kind : s.kind with
  | command tool template parameters target => simpa [kind] using defined
  | conditional condition onTrue onFalse => simpa [kind] using defined
  | choice choices => simpa [kind] using defined
  | analysis input extract => simp [kind] at defined
  | note level message => simp [kind] at defined
  | assignment target value key =>
    simp only [Complete, kind] at complete
    simp only [kind] at defined
    split at defined
    · obtain rfl := List.mem_singleton.1 defined
      exact absurd blank (by simp [memoryKey_usable named])
    · obtain rfl := List.mem_singleton.1 defined
      exact absurd blank (by simp [complete])

theorem outputNames_assignment {target value : String} {key : Option String}
    (kind : s.kind = .assignment target value key) : s.outputNames = [] := by
  simp [outputNames, actionTargets, actions, kind]

theorem Complete.blank_written (complete : s.Complete) (named : isBlankText s.id = false)
    (written : w ∈ s.writes v answer) (blank : isBlankText w.name = true) :
    w.name ∈ s.outputNames ∧ ∃ output, w = .output w.name output := by
  have put : w.name ∈ s.outputNames :=
    complete.blank_defined named (writes_defined written).1 blank
  refine ⟨put, ?_⟩
  rcases writes_output_or_assigned written with output | ⟨target, value, key, kind⟩
  · exact output
  · rw [outputNames_assignment kind] at put
    exact absurd put List.not_mem_nil

end Step

theorem Cursor.step?_declared {p : Program} {c : Cursor} {s : Step} (found : c.step? p = some s) :
    s ∈ p.declaredSteps := by
  obtain ⟨q, slot, found⟩ := Option.bind_eq_some_iff.1 found
  obtain ⟨t, place, found⟩ := Option.bind_eq_some_iff.1 found
  split at found
  · obtain rfl := Option.some.inj found
    exact List.mem_flatMap.2 ⟨q, List.mem_of_find?_eq_some slot, List.mem_of_getElem? place⟩
  · exact nomatch found

theorem Program.WellFormed.named {p : Program} (valid : p.WellFormed) {s : Step}
    (declared : s ∈ p.declaredSteps) : isBlankText s.id = false :=
  valid.stepIds.named s.id (List.mem_map.2 ⟨s, declared, rfl⟩)

namespace Debugger.Journaled

variable {σ : Type} {h : Host σ} {p : Program} {d : Debugger} {past : List Turn}

theorem turn?_declared (told : Journaled p d past) (world : σ) :
    ∀ t ∈ (d.turn? h world).toList, t.step ∈ p.declaredSteps := by
  intro t made
  obtain ⟨step, pending, rfl⟩ := Option.map_eq_some_iff.1 (Option.mem_toList.1 made)
  obtain ⟨c, -, found, -⟩ := stepOver_pending pending
  exact told.program ▸ Cursor.step?_declared found

theorem turnsMany_declared (told : Journaled p d past) (n : Nat) (world : σ) :
    ∀ t ∈ d.turnsMany h n world, t.step ∈ p.declaredSteps := by
  induction n generalizing d past world with
  | zero => simp [turnsMany]
  | succ n ih =>
    intro t made
    rcases List.mem_append.1 made with now | later
    · exact told.turn?_declared world t now
    · exact ih (told.stepOver world) _ t later

theorem turns_declared (told : Journaled p d past) (op : Operation) (world : σ) :
    ∀ t ∈ d.turns h op world, t.step ∈ p.declaredSteps := by
  cases op with
  | command command => exact told.turnsMany_declared _ world
  | breakpoint stepId enabled => simp [turns]
  | riskLevel level => simp [turns]

theorem journal_declared (told : Journaled p d past)
    (declared : ∀ t ∈ past, t.step ∈ p.declaredSteps) (ops : List Operation) (world : σ) :
    ∀ t ∈ d.journal h past ops world, t.step ∈ p.declaredSteps := by
  induction ops generalizing d past world with
  | nil => exact declared
  | cons op rest ih =>
    refine ih (told.operates (operate_cases h op d world)) ?_ _
    split
    · simp
    · intro t made
      rcases List.mem_append.1 made with before | now
      · exact declared t before
      · exact told.turns_declared op world t now

theorem journal_blank (told : Journaled p d []) (valid : p.WellFormed) (ops : List Operation)
    (world : σ) : ∀ t ∈ d.journal h [] ops world, ∀ w ∈ t.writes, isBlankText w.name = true →
      t.step ∈ p.declaredSteps ∧ w.name ∈ t.step.outputNames ∧
        ∃ output, w = .output w.name output := by
  intro t made w member blank
  have declared := told.journal_declared (by simp) ops world t made
  have complete := valid.complete t.step declared
  exact ⟨declared, complete.blank_written (valid.named declared) member blank⟩

end Debugger.Journaled

theorem Debugger.Turn.output_written {turns : List Turn} {name : String} :
    (∃ output, .output name output ∈ turns.flatMap (·.writes)) ↔
      ∃ t ∈ turns, ∃ output, .output name output ∈ t.writes := by
  simp only [List.mem_flatMap]
  constructor
  · rintro ⟨output, t, made, member⟩
    exact ⟨t, made, output, member⟩
  · rintro ⟨t, made, output, member⟩
    exact ⟨output, t, made, member⟩

namespace Variables

variable {p : Program} {v : Variables} {writes : List Write}
  (vars : v = (RunState.initial p).vars.writeAll writes)
include vars

theorem outputs_contains (name : String) :
    v.toolOutputs.contains name = true ↔ ∃ output, .output name output ∈ writes := by
  rw [Table.contains, output_told vars, Write.latest_isSome_iff]
  simp only [Write.output?_isSome_iff]
  constructor
  · rintro ⟨w, member, output, rfl⟩
    exact ⟨output, member⟩
  · rintro ⟨output, member⟩
    exact ⟨_, member, output, rfl⟩

/-! A name that is written only as the output of commands. -/

variable {name : String} (only : ∀ w ∈ writes, w.name = name → ∃ output, w = .output name output)
include only

theorem frame_contains_of_outputs :
    v.frame.contains name = true ↔ ∃ output, .output name output ∈ writes := by
  constructor
  · intro bound
    rw [Table.contains, frame_told vars, Write.latest_isSome_iff] at bound
    obtain ⟨w, member, told⟩ := bound
    rcases Write.frame?_isSome_iff.1 told with ⟨output, rfl⟩ | ⟨value, rfl⟩
    · exact ⟨output, member⟩
    · obtain ⟨output, same⟩ := only _ member rfl
      cases same
  · intro put
    exact covered_told vars ((outputs_contains vars name).2 put)

theorem memory_of_outputs :
    v.memory.get? name = (p.globalMemory.get? name).map Json.variableText := by
  have silent : Write.latest (Write.memory? name) writes = none := by
    rw [← Option.not_isSome_iff_eq_none, Write.latest_isSome_iff]
    rintro ⟨w, member, told⟩
    obtain ⟨value, rfl⟩ := Write.memory?_isSome_iff.1 told
    obtain ⟨output, same⟩ := only _ member rfl
    exact nomatch same
  rw [memory_told vars, silent, Option.none_or]

end Variables

/-- Whatever an operator does with a run of a valid program, and whatever the host answers: a blank
name is written only as the output of a command, and so it stands in the frame, and among the
outputs, just if a command has put one under it; persistent memory holds nothing under it but what
the program begins with. Where no command has a blank target, the run defines no blank name. -/
theorem blank_names_from_outputs {σ : Type} (h : Host σ) {p : Program} {found : List Diagnostic}
    (ok : p.check = .ok found) (analysis : Option Analysis) (options : Options) (maxSteps : Nat)
    (ops : List Operation) (world : σ) :
    let start := Debugger.start p analysis options maxSteps
    let turns := start.journal h [] ops world
    let s := (start.operateAll h ops world).1.state
    (∀ t ∈ turns, ∀ w ∈ t.writes, isBlankText w.name = true →
      t.step ∈ p.declaredSteps ∧ w.name ∈ t.step.outputNames ∧
        ∃ output, w = .output w.name output) ∧
    (∀ name, isBlankText name = true →
      (s.vars.frame.contains name = true ↔
        ∃ t ∈ turns, ∃ output, .output name output ∈ t.writes) ∧
      (s.vars.toolOutputs.contains name = true ↔
        ∃ t ∈ turns, ∃ output, .output name output ∈ t.writes) ∧
      s.vars.memory.get? name = (p.globalMemory.get? name).map Json.variableText) ∧
    ((∀ step ∈ p.declaredSteps, ∀ name ∈ step.outputNames, isBlankText name = false) →
      ∀ name, s.vars.frame.contains name = true ∨ s.vars.toolOutputs.contains name = true →
        isBlankText name = false) := by
  intro start turns s
  have valid := Program.wellFormed_of_check ok
  have begun : Debugger.Journaled p start [] := .start analysis options maxSteps
  have told : (start.operateAll h ops world).1.Journaled p turns := begun.operateAll ops world
  have vars : s.vars = (RunState.initial p).vars.writeAll (turns.flatMap (·.writes)) := told.vars
  have written := begun.journal_blank (h := h) valid ops world
  have only (name : String) (blank : isBlankText name = true) : ∀ w ∈ turns.flatMap (·.writes),
      w.name = name → ∃ output, w = .output name output := by
    rintro w member rfl
    obtain ⟨t, made, member⟩ := List.mem_flatMap.1 member
    exact (written t made w member blank).2.2
  refine ⟨written, fun name blank => ?_, fun usable name bound => ?_⟩
  · rw [← Debugger.Turn.output_written]
    exact ⟨Variables.frame_contains_of_outputs vars (only name blank),
      Variables.outputs_contains vars name, Variables.memory_of_outputs vars (only name blank)⟩
  · rw [← Bool.not_eq_true]
    intro blank
    rw [Variables.frame_contains_of_outputs vars (only name blank),
      Variables.outputs_contains vars, or_self, Debugger.Turn.output_written] at bound
    obtain ⟨t, made, output, member⟩ := bound
    obtain ⟨declared, target, -⟩ := written t made _ member blank
    exact absurd blank (by simp [usable t.step declared name target])

def Program.unlabelled : Program where
  name := "unlabelled"
  tools := ["sh"]
  procedures := [
    ⟨"main", "", [
      ⟨"say", "", .command "sh" "echo hello" ∅ (some " ")⟩,
      ⟨"pick", "", .choice [⟨"", .command "sh" "echo there" (some "")⟩]⟩,
      ⟨"keep", "", .assignment "memory" "kept" (some " ")⟩]⟩]
  executionOrder := []
  globalMemory := Table.ofList [(" ", .str "seeded")]
  errorHandling := .standard

theorem Program.unlabelled_wellFormed : unlabelled.WellFormed where
  hasProcedure := by simp [unlabelled]
  hasStep := by decide
  procedureIds := ⟨by decide, by decide, by decide⟩
  stepIds := ⟨by decide, by decide, by decide⟩
  order := by decide
  complete := (Validation.stepFields_clean unlabelled).1 (by decide)

theorem blank_targets_accepted :
    let s := ((Debugger.start .unlabelled none .standard 5).operateAll .echoing
      [.command .resume] 0).1.state
    (∃ found, Program.unlabelled.check = .ok found) ∧ isBlankText " " = true ∧
      isBlankText "" = true ∧
      s.vars.frame.get? " " = some "hello" ∧ s.vars.frame.get? "" = some "there" ∧
      s.vars.toolOutputs.contains " " = true ∧ s.vars.toolOutputs.contains "" = true := by
  refine ⟨(Program.check_ok_iff .unlabelled).2 Program.unlabelled_wellFormed, ?_⟩
  decide +kernel

/-- The assignment of the blank key goes to the id of its step, so that memory keeps under the blank
name what it held at first. -/
theorem unlabelled_blank_names : ∃ found, Program.unlabelled.check = .ok found ∧
    isBlankText " " = true ∧
    let s := ((Debugger.start .unlabelled none .standard 5).operateAll .echoing
      [.command .resume] 0).1.state
    s.vars.memory.get? " " = some "seeded" ∧ s.vars.memory.get? "keep" = some "kept" ∧
      s.vars.frame.contains " " = true ∧
      (∃ step ∈ Program.unlabelled.declaredSteps, " " ∈ step.outputNames) := by
  obtain ⟨found, ok⟩ := (Program.check_ok_iff .unlabelled).2 Program.unlabelled_wellFormed
  have blank : isBlankText " " = true := by decide
  obtain ⟨written, names, -⟩ := blank_names_from_outputs .echoing ok none .standard 5
    [.command .resume] 0
  obtain ⟨framed, -, seeded⟩ := names " " blank
  have bound : ((Debugger.start .unlabelled none .standard 5).operateAll .echoing
      [.command .resume] 0).1.state.vars.frame.contains " " = true := by decide +kernel
  obtain ⟨t, made, output, member⟩ := framed.1 bound
  obtain ⟨declared, target, -⟩ := written t made _ member blank
  exact ⟨found, ok, blank, seeded.trans rfl, by decide +kernel, bound, t.step, declared, target⟩

end Stepwise
