import Stepwise.Proofs.Text.Trim
import Stepwise.Run.Evaluate
/-!
What evaluating a step writes. It is told by the step, by the variables before it and by the host's
answer to the command that it runs, if it runs one: a step writes at most one name, one that it is
declared to define, and a step that fails writes none. What a name stands for after a number of
writes is told by the last of them that concerns it.
-/

namespace Stepwise

/-- One change to the variables of a run. The output of a command is kept twice. -/
inductive Write where
  | output (name : String) (output : ToolOutput)
  | frame (name value : String)
  | memory (key value : String)

namespace Write

def name : Write → String
  | output name _ | frame name _ => name
  | memory key _ => key

def frame? (name : String) : Write → Option String
  | output other o => if name = other then some o.output else none
  | frame other value => if name = other then some value else none
  | memory .. => none

def memory? (name : String) : Write → Option String
  | memory key value => if name = key then some value else none
  | _ => none

def output? (name : String) : Write → Option ToolOutput
  | output other o => if name = other then some o else none
  | _ => none

theorem tells_own {w : Write} {name : String} (other : name ≠ w.name) :
    w.frame? name = none ∧ w.memory? name = none ∧ w.output? name = none := by
  cases w with
  | output _ o => exact ⟨if_neg other, rfl, if_neg other⟩
  | frame _ value => exact ⟨if_neg other, rfl, rfl⟩
  | memory key value => exact ⟨rfl, if_neg other, rfl⟩

def latest (tells : Write → Option α) (writes : List Write) : Option α :=
  writes.reverse.findSome? tells

theorem latest_cons (tells : Write → Option α) (w : Write) (rest : List Write) :
    latest tells (w :: rest) = (latest tells rest).or (tells w) := by
  have alone : [w].findSome? tells = tells w := by
    cases told : tells w with
    | none => simp [told]
    | some a => simp [told]
  rw [latest, List.reverse_cons, List.findSome?_append, alone, latest]

/-- Where one thing is told another is, so its last telling comes with one of the other. -/
theorem latest_isSome {tells : Write → Option α} {others : Write → Option β}
    (follows : ∀ w, (tells w).isSome = true → (others w).isSome = true) {writes : List Write}
    (told : (latest tells writes).isSome = true) : (latest others writes).isSome = true := by
  rw [latest, List.findSome?_isSome_iff] at told ⊢
  obtain ⟨w, member, told⟩ := told
  exact ⟨w, member, follows w told⟩

end Write

namespace Variables

def write (v : Variables) : Write → Variables
  | .output name o =>
    { v with frame := v.frame.insert name o.output, toolOutputs := v.toolOutputs.insert name o }
  | .frame name value => { v with frame := v.frame.insert name value }
  | .memory key value => { v with memory := v.memory.insert key value }

def writeAll (v : Variables) (writes : List Write) : Variables := writes.foldl write v

variable (v : Variables)

theorem writeAll_append (first second : List Write) :
    v.writeAll (first ++ second) = (v.writeAll first).writeAll second :=
  List.foldl_append

theorem frame_write (w : Write) (name : String) :
    (v.write w).frame.get? name = (w.frame? name).or (v.frame.get? name) := by
  cases w with
  | output other o =>
    simp only [write, Table.get?_insert, Write.frame?]
    split
    · rfl
    · rfl
  | frame other value =>
    simp only [write, Table.get?_insert, Write.frame?]
    split
    · rfl
    · rfl
  | memory key value => rfl

theorem memory_write (w : Write) (name : String) :
    (v.write w).memory.get? name = (w.memory? name).or (v.memory.get? name) := by
  cases w with
  | output other o => rfl
  | frame other value => rfl
  | memory key value =>
    simp only [write, Table.get?_insert, Write.memory?]
    split
    · rfl
    · rfl

theorem toolOutputs_write (w : Write) (name : String) :
    (v.write w).toolOutputs.get? name = (w.output? name).or (v.toolOutputs.get? name) := by
  cases w with
  | output other o =>
    simp only [write, Table.get?_insert, Write.output?]
    split
    · rfl
    · rfl
  | frame other value => rfl
  | memory key value => rfl

theorem latest_writeAll (look : Variables → Option α) {tells : Write → Option α}
    (each : ∀ v w, look (write v w) = (tells w).or (look v)) (writes : List Write) :
    look (v.writeAll writes) = (Write.latest tells writes).or (look v) := by
  induction writes generalizing v with
  | nil => rfl
  | cons w rest ih =>
    change look ((v.write w).writeAll rest) = _
    rw [ih, each, Write.latest_cons, Option.or_assoc]

theorem frame_writeAll (writes : List Write) (name : String) :
    (v.writeAll writes).frame.get? name =
      (Write.latest (Write.frame? name) writes).or (v.frame.get? name) :=
  v.latest_writeAll (·.frame.get? name) (fun v w => frame_write v w name) writes

theorem memory_writeAll (writes : List Write) (name : String) :
    (v.writeAll writes).memory.get? name =
      (Write.latest (Write.memory? name) writes).or (v.memory.get? name) :=
  v.latest_writeAll (·.memory.get? name) (fun v w => memory_write v w name) writes

theorem toolOutputs_writeAll (writes : List Write) (name : String) :
    (v.writeAll writes).toolOutputs.get? name =
      (Write.latest (Write.output? name) writes).or (v.toolOutputs.get? name) :=
  v.latest_writeAll (·.toolOutputs.get? name) (fun v w => toolOutputs_write v w name) writes

theorem find?_write {w : Write} {name : String} (differ : name ≠ w.name) :
    (v.write w).find? name = v.find? name := by
  obtain ⟨frame, memory, output⟩ := Write.tells_own differ
  simp only [find?, frame_write, memory_write, toolOutputs_write, frame, memory, output,
    Option.none_or]

theorem find?_writeAll {writes : List Write} {name : String}
    (differ : ∀ w ∈ writes, name ≠ w.name) : (v.writeAll writes).find? name = v.find? name := by
  induction writes generalizing v with
  | nil => rfl
  | cons w rest ih =>
    change ((v.write w).writeAll rest).find? name = _
    rw [ih _ fun other later => differ other (List.mem_cons_of_mem _ later),
      v.find?_write (differ w List.mem_cons_self)]

end Variables

/-- What a command has put out as one text: what is left of one output without the blanks around it
if nothing is left of the other, or else both on lines of their own. -/
inductive Output.Says (o : Output) : String → Prop
  | out {text : String} (left : Text.Trims text o.stdout) (silent : Text.Trims "" o.stderr) :
      Says o text
  | err {text : String} (silent : Text.Trims "" o.stdout) (left : Text.Trims text o.stderr) :
      Says o text
  | both {out err : String} (left : Text.Trims out o.stdout) (below : Text.Trims err o.stderr)
      (something : out ≠ "") (more : err ≠ "") : Says o (out ++ "\n" ++ err)

theorem Output.combined_says (o : Output) : o.Says o.combined := by
  have out : Text.Trims (Text.trim o.stdout) o.stdout := Text.trims_iff.2 rfl
  have err : Text.Trims (Text.trim o.stderr) o.stderr := Text.trims_iff.2 rfl
  unfold combined
  dsimp only
  split
  · next empty =>
    rw [String.isEmpty_iff.1 empty] at err
    exact .out out err
  · next more =>
    split
    · next empty =>
      rw [String.isEmpty_iff.1 empty] at out
      exact .err out err
    · next something => exact .both out err (by simpa using something) (by simpa using more)

structure Answer where
  reply : Reply
  time : Timestamp

namespace Answer

def succeeds : Option Answer → Bool
  | some ⟨.ok output, _⟩ => output.success
  | _ => false

def writes (v : Variables) (template : String) (target : Option String) :
    Option Answer → List Write
  | some ⟨.ok output, time⟩ =>
    if output.success then
      target.toList.map fun name => .output name ⟨v.fill template, output.combined, time⟩
    else []
  | _ => []

end Answer

namespace Action

def writes (v : Variables) (answer : Option Answer) : Action → List Write
  | .command _ template target => Answer.writes v template target answer
  | .log .. => []

def succeeds (answer : Option Answer) : Action → Bool
  | .command .. => Answer.succeeds answer
  | .log .. => true

end Action

theorem Step.memoryKey_eq {s : Step} {target value : String} {key : Option String}
    (kind : s.kind = .assignment target value key) :
    s.memoryKey = (key.filter fun k => !Text.isBlankText k).getD s.id := by
  rw [memoryKey, kind]
  cases key with
  | none => rfl
  | some k =>
    by_cases blank : Text.isBlankText k = true
    · simp [Option.filter, blank]
    · simp [Option.filter, blank]

theorem isMemoryTarget_iff {target : String} :
    isMemoryTarget target = true ↔ target = "memory" ∨ target = "global" := by
  simp [isMemoryTarget]

namespace Step

def writes (s : Step) (v : Variables) (answer : Option Answer) : List Write :=
  match s.kind with
  | .command _ template _ target => Answer.writes v template target answer
  | .conditional condition onTrue onFalse =>
    match if condition.holds v then onTrue else onFalse with
    | some action => action.writes v answer
    | none => []
  | .assignment target value key =>
    if target = "memory" ∨ target = "global" then
      [.memory ((key.filter fun k => !Text.isBlankText k).getD s.id) (v.fill value)]
    else [.frame target (v.fill value)]
  | .choice (chosen :: _) => chosen.action.writes v answer
  | .choice [] | .analysis .. | .note .. => []

def succeeds (s : Step) (v : Variables) (answer : Option Answer) : Bool :=
  match s.kind with
  | .command .. => Answer.succeeds answer
  | .conditional condition onTrue onFalse =>
    match if condition.holds v then onTrue else onFalse with
    | some action => action.succeeds answer
    | none => true
  | .choice (chosen :: _) => chosen.action.succeeds answer
  | .choice [] => false
  | .assignment .. | .analysis .. | .note .. => true

end Step

/-- What holds of everything that a plan can come to, given the answer to what it asks. -/
def Plan.Tells (P : Option Answer → α → Prop) : Plan α → Prop
  | .done a => P none a
  | .ask _ answered => ∀ reply time, P (some ⟨reply, time⟩) (answered reply time)

namespace Plan

theorem tells_map {P : Option Answer → β → Prop} {f : α → β} {plan : Plan α} :
    (plan.map f).Tells P ↔ plan.Tells fun answer a => P answer (f a) := by
  cases plan with
  | done a => exact Iff.rfl
  | ask request answered => exact Iff.rfl

theorem Tells.mono {P Q : Option Answer → α → Prop} {plan : Plan α} (tells : plan.Tells P)
    (weaken : ∀ answer a, P answer a → Q answer a) : plan.Tells Q := by
  cases plan with
  | done a => exact weaken _ _ tells
  | ask request answered => exact fun reply time => weaken _ _ (tells reply time)

theorem Tells.outcome {P : Option Answer → α → Prop} {plan : Plan α} (tells : plan.Tells P)
    {h : Host σ} {world after : σ} {a : α} (outcome : plan.run h world = (a, after)) :
    P (plan.request?.map fun request =>
      ⟨(h.run request world).1, h.now (h.run request world).2⟩) a := by
  have same : (plan.run h world).1 = a := by rw [outcome]
  cases plan with
  | done value => exact same ▸ tells
  | ask request answered => exact same ▸ tells _ _

end Plan

structure Evaluated.Accounted (v : Variables) (writes : List Write) (succeeds : Bool)
    (e : Evaluated) : Prop where
  vars : e.vars = v.writeAll writes
  success : e.result.success = succeeds

namespace Step

variable (s : Step) (options : Options) (v : Variables)

theorem runCommand_tells (template : String) (target : Option String) :
    (s.runCommand options v template target).Tells fun answer e =>
      e.Accounted v (Answer.writes v template target answer) (Answer.succeeds answer) := by
  rw [runCommand, Plan.tells_map]
  unfold attempt
  dsimp only
  split
  · exact ⟨rfl, rfl⟩
  · intro reply time
    cases reply with
    | error error => exact ⟨rfl, rfl⟩
    | ok output =>
      by_cases success : output.success = true
      · refine ⟨?_, by simp [Attempt.evaluated, Answer.succeeds, success, StepResult.ok]⟩
        cases target with
        | none => simp [Attempt.evaluated, Answer.writes, success, Variables.assignOutput,
            Variables.writeAll]
        | some name => simp [Attempt.evaluated, Answer.writes, success, Variables.assignOutput,
            Variables.writeAll, Variables.write]
      · exact ⟨by simp [Attempt.evaluated, Answer.writes, success, Variables.writeAll],
          by simp [Attempt.evaluated, Answer.succeeds, success, StepResult.failed]⟩

theorem runAction_tells (a : Action) :
    (s.runAction options v a).Tells fun answer e =>
      e.Accounted v (a.writes v answer) (a.succeeds answer) := by
  cases a with
  | command tool template target => exact runCommand_tells s options v template target
  | log message level => exact ⟨rfl, rfl⟩

theorem wrapped_tells {a : Action} {plan : Plan Evaluated} (wrap : Json → Json)
    (tells : plan.Tells fun answer e => e.Accounted v (a.writes v answer) (a.succeeds answer)) :
    (plan.map (wrapOutput wrap)).Tells fun answer e =>
      e.Accounted v (a.writes v answer) (a.succeeds answer) := by
  rw [Plan.tells_map]
  exact tells.mono fun _ _ accounted => ⟨accounted.vars, accounted.success⟩

theorem plan_tells : (s.plan options v).Tells fun answer e =>
    e.Accounted v (s.writes v answer) (s.succeeds v answer) := by
  unfold plan writes succeeds
  cases kind : s.kind with
  | command tool template parameters target => exact runCommand_tells s options v template target
  | conditional condition onTrue onFalse =>
    dsimp only
    cases (if condition.holds v = true then onTrue else onFalse) with
    | none => exact ⟨rfl, rfl⟩
    | some a => exact wrapped_tells v _ (runAction_tells s options v a)
  | assignment target value name =>
    simp only [assign, isMemoryTarget_iff, memoryKey_eq kind]
    split
    · exact ⟨rfl, rfl⟩
    · exact ⟨rfl, rfl⟩
  | choice choices =>
    cases choices with
    | nil => exact ⟨rfl, rfl⟩
    | cons chosen rest => exact wrapped_tells v _ (runAction_tells s options v chosen.action)
  | analysis input extract => exact ⟨rfl, rfl⟩
  | note level message => exact ⟨rfl, rfl⟩

end Step

theorem Answer.writes_target {v : Variables} {template : String} {target : Option String}
    {answer : Option Answer} {w : Write} (written : w ∈ Answer.writes v template target answer) :
    target = some w.name ∧ Answer.succeeds answer = true := by
  unfold Answer.writes at written
  split at written
  · next output time =>
    by_cases success : output.success = true
    · rw [if_pos success] at written
      obtain ⟨name, named, rfl⟩ := List.mem_map.1 written
      exact ⟨Option.mem_toList.1 named, success⟩
    · simp [success] at written
  · simp at written

theorem Action.writes_target {v : Variables} {answer : Option Answer} {a : Action} {w : Write}
    (written : w ∈ a.writes v answer) :
    a.assignTo = some w.name ∧ a.succeeds answer = true := by
  cases a with
  | command tool template target => exact Answer.writes_target written
  | log message level => simp [writes] at written

namespace Step

variable {s : Step} {v : Variables} {answer : Option Answer} {w : Write}

theorem actionTargets_of_writes {a : Action} (member : a ∈ s.actions)
    (written : w ∈ a.writes v answer) : w.name ∈ s.actionTargets :=
  List.mem_filterMap.2 ⟨a, member, (Action.writes_target written).1⟩

theorem writes_defined (written : w ∈ s.writes v answer) :
    w.name ∈ s.definedVariables ∧ s.succeeds v answer = true := by
  unfold writes at written
  unfold definedVariables succeeds
  cases kind : s.kind with
  | command tool template parameters target =>
    simp only [kind] at written
    obtain ⟨named, success⟩ := Answer.writes_target written
    exact ⟨Option.mem_toList.2 named, success⟩
  | conditional condition onTrue onFalse =>
    simp only [kind] at written ⊢
    cases branch : (if condition.holds v = true then onTrue else onFalse) with
    | none => simp [branch] at written
    | some a =>
      simp only [branch] at written
      have member : a ∈ s.actions := by
        simp only [actions, kind, List.mem_append, Option.mem_toList]
        split at branch
        · exact .inl branch
        · exact .inr branch
      exact ⟨actionTargets_of_writes member written, (Action.writes_target written).2⟩
  | assignment target value name =>
    simp only [kind] at written ⊢
    split at written
    · next isMemory =>
      simp [List.mem_singleton.1 written, isMemoryTarget_iff, isMemory, Write.name,
        memoryKey_eq kind]
    · next isFrame => simp [List.mem_singleton.1 written, isMemoryTarget_iff, isFrame, Write.name]
  | choice choices =>
    simp only [kind] at written ⊢
    cases choices with
    | nil => simp at written
    | cons chosen rest =>
      have member : chosen.action ∈ s.actions := by simp [actions, kind]
      exact ⟨actionTargets_of_writes member written, (Action.writes_target written).2⟩
  | analysis input extract => simp [kind] at written
  | note level message => simp [kind] at written

end Step

end Stepwise
