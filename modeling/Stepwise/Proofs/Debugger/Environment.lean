import Stepwise.Proofs.Debugger.Recording
import Stepwise.Proofs.Debugger.Trace
import Stepwise.Proofs.Run.Writes
/-!
What the variables of a run stand for. The evaluations made since a run was last at its start are
kept in a journal beside it; the variables are those that a program begins with after the writes of
the evaluations that succeeded, so that each name is told by the last write that concerns it.
-/

namespace Stepwise

/-- One evaluation of a step: from which variables, and what the host said to its command. -/
structure Turn where
  step : Step
  vars : Variables
  answer : Option Answer

namespace Turn

def succeeds (t : Turn) : Bool := t.step.succeeds t.vars t.answer

def writes (t : Turn) : List Write := t.step.writes t.vars t.answer

def verdict (t : Turn) : (String × String) × Bool := (t.step.subject, t.succeeds)

theorem flatMap_succeeds (turns : List Turn) :
    (turns.filter (·.succeeds)).flatMap (·.writes) = turns.flatMap (·.writes) := by
  induction turns with
  | nil => rfl
  | cons t rest ih =>
    rw [List.filter_cons, List.flatMap_cons]
    by_cases success : t.succeeds = true
    · rw [if_pos success, List.flatMap_cons, ih]
    · have silent : t.writes = [] :=
        List.eq_nil_iff_forall_not_mem.2 fun w written => success (Step.writes_defined written).2
      rw [if_neg success, ih, silent, List.nil_append]

end Turn

def TraceEntry.verdict (e : TraceEntry) : (String × String) × Bool := (e.subject, e.success)

namespace Debugger

variable {σ : Type} (h : Host σ)

def turn? (d : Debugger) (world : σ) : Option Turn :=
  d.pending?.map fun step =>
    ⟨step, d.state.vars, d.asked.map fun request =>
      ⟨(h.run request world).1, h.now (h.run request world).2⟩⟩

def turnsMany : Nat → Debugger → σ → List Turn
  | 0, _, _ => []
  | n + 1, d, world =>
    (d.turn? h world).toList ++ turnsMany n (d.stepOver h world).1.2 (d.stepOver h world).2

/-- The evaluations of an operation, as many as its outcome counts. -/
def turns (d : Debugger) (op : Operation) (world : σ) : List Turn :=
  match op with
  | .command command => d.turnsMany h (d.execute h command world).1.1.stepsRun world
  | _ => []

/-- The evaluations since the last reset, after those made so far. -/
def journal (past : List Turn) : List Operation → Debugger → σ → List Turn
  | [], _, _ => past
  | op :: rest, d, world =>
    journal (if op = .command .reset then [] else past ++ d.turns h op world) rest
      (d.operate h op world).1 (h.wait (d.operate h op world).2)

/-- A journal tells of a run of a program what has become of its variables, and its history. -/
structure Journaled (p : Program) (d : Debugger) (turns : List Turn) : Prop where
  program : d.program = p
  vars : d.state.vars = (RunState.initial p).vars.writeAll (turns.flatMap (·.writes))
  history : d.state.history.map (·.verdict) = turns.map (·.verdict)

variable {h}

theorem turnsMany_last (n : Nat) (d : Debugger) (world : σ) :
    d.turnsMany h (n + 1) world =
      d.turnsMany h n world ++
        ((d.stepMany h n world).1.turn? h (d.stepMany h n world).2).toList := by
  induction n generalizing d world with
  | zero => simp [turnsMany, stepMany]
  | succ n ih => rw [turnsMany, ih, turnsMany, List.append_assoc, stepMany_succ]

theorem turn?_none {d : Debugger} {world : σ} (nothing : (d.stepOver h world).1.1 = none) :
    d.turn? h world = none := by
  cases pending : d.pending? with
  | none => simp [turn?, pending]
  | some step =>
    obtain ⟨c, -, -, steps⟩ := stepOver_pending pending
    simp [steps] at nothing

theorem turnsMany_counts {d : Debugger} {world : σ} {count n : Nat}
    (counts : d.Counts h world count n) : d.turnsMany h n world = d.turnsMany h count world := by
  rcases counts with rfl | ⟨rfl, nothing⟩
  · rfl
  · rw [turnsMany_last, turn?_none nothing, Option.toList_none, List.append_nil]

theorem StepOver.unchanged {d next : Debugger} {world after : σ}
    (moved : StepOver h d world none next after) :
    next.program = d.program ∧ next.state.vars = d.state.vars ∧
      next.state.history = d.state.history := by
  cases moved with
  | stands | ends | limited | lost => exact ⟨rfl, rfl, rfl⟩

theorem evaluateAt_state {d : Debugger} {step : Step} {e : Evaluated} {world after : σ}
    (outcome : (step.plan d.options d.state.vars).run h world = (e, after)) (c : Cursor) :
    (d.evaluateAt h c step world).1.2.program = d.program ∧
      (d.evaluateAt h c step world).1.2.state.vars = e.vars ∧
      (d.evaluateAt h c step world).1.2.state.history =
        d.state.history ++ [e.result.entry (h.span world (h.wait after))] := by
  simp only [evaluateAt, RunState.evaluate, outcome]
  split
  · exact ⟨rfl, rfl, rfl⟩
  · exact ⟨rfl, rfl, rfl⟩

namespace Journaled

variable {p : Program} {d : Debugger} {past : List Turn}

theorem start (analysis : Option Analysis) (options : Options) (maxSteps : Nat) :
    Journaled p (.start p analysis options maxSteps) [] := ⟨rfl, rfl, rfl⟩

theorem stepOver (told : Journaled p d past) (world : σ) :
    Journaled p (d.stepOver h world).1.2 (past ++ (d.turn? h world).toList) := by
  cases pending : d.pending? with
  | none =>
    obtain ⟨next, stands⟩ := stepOver_idle pending
    have moved := stepOver_cases h d world
    have result : (d.stepOver h world).1.1 = none := by rw [stands]
    rw [result] at moved
    obtain ⟨program, vars, history⟩ := moved.unchanged
    rw [turn?_none result, Option.toList_none, List.append_nil]
    exact ⟨program.trans told.program, vars.trans told.vars, history ▸ told.history⟩
  | some step =>
    obtain ⟨c, -, -, steps⟩ := stepOver_pending pending
    rcases outcome : (step.plan d.options d.state.vars).run h world with ⟨e, after⟩
    have request : d.asked = (step.plan d.options d.state.vars).request? := by
      rw [asked, template?, pending, Step.plan_request?]
      rfl
    have accounted := (step.plan_tells d.options d.state.vars).outcome outcome
    have fits := (plan_fits step d.options d.state.vars).outcome outcome
    obtain ⟨program, vars, history⟩ := evaluateAt_state outcome c
    rw [← request] at accounted
    rw [steps, turn?, pending, Option.map_some, Option.toList_some]
    refine ⟨program.trans told.program, ?_, ?_⟩
    · rw [vars, accounted.vars, told.vars, List.flatMap_append, Variables.writeAll_append]
      simp [Turn.writes]
    · rw [history, List.map_append, told.history, List.map_append]
      simp [TraceEntry.verdict, TraceEntry.subject, StepResult.entry, fits.stepId, fits.stepType,
        Turn.verdict, Step.subject, Turn.succeeds, accounted.success]

theorem stepMany (told : Journaled p d past) (n : Nat) (world : σ) :
    Journaled p (d.stepMany h n world).1 (past ++ d.turnsMany h n world) := by
  induction n generalizing d past world with
  | zero =>
    rw [turnsMany, List.append_nil]
    exact told
  | succ n ih =>
    rw [turnsMany, ← List.append_assoc]
    exact ih (told.stepOver world) _

theorem adjust {next : Debugger} (told : Journaled p d past) (program : next.program = d.program)
    (vars : next.state.vars = d.state.vars) (history : next.state.history = d.state.history) :
    Journaled p next past :=
  ⟨program.trans told.program, vars.trans told.vars, history ▸ told.history⟩

theorem idle {next : Debugger} {op : Operation} {world : σ} (told : Journaled p next past)
    (onward : op ≠ .command .reset) (silent : d.turns h op world = []) :
    Journaled p next (if op = .command .reset then [] else past ++ d.turns h op world) := by
  rwa [if_neg onward, silent, List.append_nil]

theorem operates {op : Operation} {next : Debugger} {world after : σ} (told : Journaled p d past)
    (done : Operates h d world op next after) :
    Journaled p next (if op = .command .reset then [] else past ++ d.turns h op world) := by
  cases done with
  | @steps command n stepping counts =>
    have onward : Operation.command command ≠ .command .reset := by
      rintro ⟨⟩
      simp [DebugCommand.isStepping] at stepping
    rw [if_neg onward, turns, ← turnsMany_counts counts]
    exact told.stepMany n world
  | resets =>
    rw [if_pos rfl]
    exact told.program ▸ ⟨rfl, rfl, rfl⟩
  | pauses =>
    obtain ⟨status, paused, -⟩ := d.pause_state
    rw [paused]
    exact idle (told.adjust rfl rfl rfl) (by simp) rfl
  | evaluates | inspects | refuses => exact told.idle (by simp) rfl
  | marks set =>
    obtain ⟨-, rfl⟩ := setBreakpoint_ok set
    exact idle (told.adjust rfl rfl rfl) (by simp) rfl
  | level level =>
    obtain ⟨status, failure, set⟩ := setRiskLevel_state d level
    rw [set]
    exact idle (told.adjust rfl rfl rfl) (by simp) rfl

theorem operateAll (told : Journaled p d past) (ops : List Operation) (world : σ) :
    Journaled p (d.operateAll h ops world).1 (d.journal h past ops world) := by
  induction ops generalizing d past world with
  | nil => exact told
  | cons op rest ih => exact ih (told.operates (operate_cases h op d world)) _

end Journaled

end Debugger

/-- What a name stands for after some writes: the last to the frame goes before the last to
persistent memory, and that before what the program begins with. -/
def environment (p : Program) (writes : List Write) (name : String) :
    Option (String × VariableSource) :=
  match Write.latest (Write.frame? name) writes with
  | some value => some (value, .localVariable)
  | none =>
    ((Write.latest (Write.memory? name) writes).or
      ((p.globalMemory.get? name).map Json.variableText)).map (·, .persistentMemory)

structure RunState.ToldBy (p : Program) (writes : List Write) (s : RunState) : Prop where
  value : ∀ name, s.vars.find? name = environment p writes name
  output : ∀ name, s.vars.toolOutputs.get? name = Write.latest (Write.output? name) writes
  covered : ∀ name, s.vars.toolOutputs.contains name = true → s.vars.frame.contains name = true
  source : ∀ name value, s.vars.find? name ≠ some (value, .toolOutput)

namespace Variables

variable {p : Program} {v : Variables} {writes : List Write}

theorem output_told (vars : v = (RunState.initial p).vars.writeAll writes) (name : String) :
    v.toolOutputs.get? name = Write.latest (Write.output? name) writes := by
  rw [vars, toolOutputs_writeAll]
  exact Option.or_none

theorem frame_told (vars : v = (RunState.initial p).vars.writeAll writes) (name : String) :
    v.frame.get? name = Write.latest (Write.frame? name) writes := by
  rw [vars, frame_writeAll]
  exact Option.or_none

theorem memory_told (vars : v = (RunState.initial p).vars.writeAll writes) (name : String) :
    v.memory.get? name = (Write.latest (Write.memory? name) writes).or
      ((p.globalMemory.get? name).map Json.variableText) := by
  rw [vars, memory_writeAll, RunState.initial, Table.get?_map]

theorem covered_told (vars : v = (RunState.initial p).vars.writeAll writes) {name : String}
    (kept : v.toolOutputs.contains name = true) : v.frame.contains name = true := by
  rw [Table.contains, output_told vars] at kept
  rw [Table.contains, frame_told vars]
  refine Write.latest_isSome (fun w told => ?_) kept
  cases w with
  | output other o =>
    simp only [Write.output?, Write.frame?] at told ⊢
    split at told
    · next same => simp [same]
    · simp at told
  | frame other value => simp [Write.output?] at told
  | memory key value => simp [Write.output?] at told

theorem find?_told (vars : v = (RunState.initial p).vars.writeAll writes) (name : String) :
    v.find? name = environment p writes name := by
  have covered : v.toolOutputs.contains name = true → v.frame.contains name = true :=
    covered_told vars
  rw [environment, ← frame_told vars, ← memory_told vars, find?]
  cases frame : v.frame.get? name with
  | some value => rfl
  | none =>
    have absent : v.toolOutputs.get? name = none := by
      simpa [Table.contains, frame] using covered
    cases v.memory.get? name with
    | some value => rfl
    | none => simp [absent]

theorem environment_source (name value : String) :
    environment p writes name ≠ some (value, .toolOutput) := by
  unfold environment
  split
  · simp
  · simp

end Variables

/-- Whatever an operator does and whatever the host answers: the history tells of the evaluations in
the journal, and the variables of the writes of those that succeeded. The text that a command writes
is what is left of its outputs. -/
theorem variables_told_by_writes {σ : Type} (h : Host σ) (p : Program)
    (analysis : Option Analysis) (options : Options) (maxSteps : Nat) (ops : List Operation)
    (world : σ) :
    let start := Debugger.start p analysis options maxSteps
    let turns := start.journal h [] ops world
    let s := (start.operateAll h ops world).1.state
    s.history.map (·.verdict) = turns.map (·.verdict) ∧
      s.ToldBy p ((turns.filter (·.succeeds)).flatMap (·.writes)) ∧
      ∀ o : Output, o.Says o.combined := by
  intro start turns s
  have told : (start.operateAll h ops world).1.Journaled p turns :=
    (Debugger.Journaled.start analysis options maxSteps).operateAll ops world
  have vars := told.vars
  rw [← Turn.flatMap_succeeds] at vars
  refine ⟨told.history, ⟨Variables.find?_told vars, Variables.output_told vars,
    fun name => Variables.covered_told vars, fun name value => ?_⟩, Output.combined_says⟩
  rw [Variables.find?_told vars]
  exact Variables.environment_source name value

end Stepwise
