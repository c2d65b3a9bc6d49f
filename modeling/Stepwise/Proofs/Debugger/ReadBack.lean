import Stepwise.Proofs.Analysis
import Stepwise.Proofs.Debugger.Operation
import Stepwise.Proofs.Program.WellFormed
import Stepwise.Proofs.Run.Recorded
import Stepwise.Proofs.Run.RoundTrip
import Stepwise.Proofs.Run.Untimed
/-!
States that an operator can bring a run to are found again in what is written of them, whatever the
program and the host: no step that succeeds is recorded with an output that is null, and every time
is one of the host's clock.
-/

namespace Stepwise

open Json (InOrder)

/-- A state in which just the entries of steps that succeeded have outputs, and none is null. -/
structure RunState.Recorded (s : RunState) : Prop extends s.Legible InOrder where
  told : ∀ e ∈ s.history, e.output.isSome = e.success

namespace RunState

variable {s : RunState}

theorem Recorded.output {e : TraceEntry} (recorded : s.Recorded) (member : e ∈ s.history)
    (success : e.success = true) : ∃ j, e.output = some j ∧ j ≠ .null := by
  obtain ⟨j, there⟩ := Option.isSome_iff_exists.1 ((recorded.told e member).trans success)
  exact ⟨j, there, ((recorded.history e member).output j there).1⟩

theorem Recorded.same {t : RunState} (recorded : s.Recorded) (history : t.history = s.history)
    (toolOutputs : t.vars.toolOutputs = s.vars.toolOutputs)
    (failure : ∀ e ∈ t.failure, e.time.InCalendar) : t.Recorded :=
  ⟨⟨history ▸ recorded.history, toolOutputs ▸ recorded.toolOutputs, failure⟩,
    history ▸ recorded.told⟩

theorem Recorded.fail (recorded : s.Recorded) {time : Timestamp} (within : time.InCalendar)
    (stepId : String) (kind : FailureKind) (message : String) :
    (s.fail stepId kind message time).Recorded :=
  recorded.same rfl rfl fun e there => by
    cases there
    exact within

theorem recorded_initial (p : Program) : (initial p).Recorded where
  history := by simp [initial]
  toolOutputs := nofun
  failure := nofun
  told := by simp [initial]

end RunState

namespace Debugger

variable {σ : Type} {h : Host σ}

theorem recorded_evaluated {d : Debugger} (recorded : d.state.Recorded) {answer : Option Answer}
    {e : Evaluated} (recordable : e.Recordable d.state.vars answer)
    (answered : ∀ a ∈ answer, a.time.InCalendar) {span : Span}
    (begun : span.started.InCalendar) (ended : span.completed.InCalendar) :
    (d.evaluated e span).state.Recorded where
  history := by
    intro entry member
    rcases List.mem_append.1 member with before | last
    · exact recorded.history entry before
    · obtain rfl := List.mem_singleton.1 last
      refine ⟨begun, ended, fun j there => ?_⟩
      obtain ⟨success, rfl⟩ : e.result.success = true ∧ e.result.output = j := by
        simpa [StepResult.entry] using there
      exact recordable.output success
  toolOutputs := by
    intro t member
    rcases recordable.toolOutputs t member with before | ⟨a, there, same⟩
    · exact recorded.toolOutputs t before
    · exact same ▸ answered a there
  failure := recorded.failure
  told := by
    intro entry member
    rcases List.mem_append.1 member with before | last
    · exact recorded.told entry before
    · obtain rfl := List.mem_singleton.1 last
      cases success : e.result.success with
      | true => simp [StepResult.entry, success]
      | false => simp [StepResult.entry, success]

variable (clock : ∀ world, (h.now world).InCalendar)
include clock

theorem recorded_evaluates {d : Debugger} (recorded : d.state.Recorded) {world after : σ}
    {c : Cursor} {step : Step} {e : Evaluated} (evaluates : Evaluates h d world c step e after) :
    (d.evaluated e (h.span world (h.wait after))).state.Recorded := by
  have recordable := (step.plan_recordable d.options d.state.vars).outcome evaluates.outcome
  refine recorded_evaluated recorded recordable (fun a there => ?_) (clock world) (clock _)
  obtain ⟨request, _, rfl⟩ := Option.map_eq_some_iff.1 there
  exact clock _

theorem recorded_stepOver {d next : Debugger} (recorded : d.state.Recorded) {world after : σ}
    {result : Option StepResult} (moved : StepOver h d world result next after) :
    next.state.Recorded := by
  cases moved with
  | stands => exact recorded
  | ends => exact recorded.same rfl rfl recorded.failure
  | limited | lost => exact recorded.fail (clock world) _ _ _
  | succeeds evaluates success =>
    have evaluated := recorded_evaluates clock recorded evaluates
    exact evaluated.same rfl rfl evaluated.failure
  | fails evaluates => exact (recorded_evaluates clock recorded evaluates).fail (clock _) _ _ _

theorem recorded_kept : Kept h fun d _ => d.state.Recorded where
  stepOver {d world} recorded := recorded_stepOver clock recorded (stepOver_cases h d world)
  pause {d world} recorded := by
    obtain ⟨status, paused, -⟩ := d.pause_state
    rw [paused]
    exact recorded.same rfl rfl recorded.failure
  reset _ := RunState.recorded_initial _
  evaluate _ recorded := recorded
  breakpoint recorded set := by
    obtain ⟨-, rfl⟩ := setBreakpoint_ok set
    exact recorded.same rfl rfl recorded.failure
  riskLevel {d world} level recorded := by
    rcases setRiskLevel_cases d level with ⟨-, -, -, set⟩ | ⟨-, set⟩
    · rw [set]
      exact recorded.same rfl rfl nofun
    · rw [set]
      exact recorded
  wait recorded := recorded

end Debugger

/-- States and analyses are read back from what is written of them, whether their members come as
they are written or in the order of their names: every state that a run can be brought to by a host
whose clock keeps to the calendar, and every state and every analysis that has itself been read
from a value. No step that succeeded is recorded without an output or with one that is null, and
what else an analysis says is kept. -/
theorem states_read_back :
    (∀ {σ : Type} (h : Host σ), (∀ world, (h.now world).InCalendar) →
      ∀ (p : Program) (analysis : Option Analysis) (options : Options) (maxSteps : Nat)
        (ops : List Operation) (world : σ) (s : RunState),
        s = (Debugger.operateAll h ops (.start p analysis options maxSteps) world).1.state →
        RunState.decode s.toJson = .ok s ∧ RunState.decode s.toJson.sorted = .ok s ∧
          ∀ e ∈ s.history, e.success = true → ∃ j, e.output = some j ∧ j ≠ .null) ∧
    (∀ v s, RunState.decode v = .ok s →
      RunState.decode s.toJson = .ok s ∧ (v.InOrder → RunState.decode s.toJson.sorted = .ok s)) ∧
    (∀ v a, Analysis.decode v = .ok a →
      Analysis.decode a.toJson = .ok a ∧ (v.InOrder → Analysis.decode a.toJson.sorted = .ok a) ∧
      ∀ name, name ≠ "intent" → name ≠ "risk_summary" →
        (∀ members, v = .obj members → (members.map (·.1)).Nodup →
          a.toJson.member? name = v.member? name) ∧
        (v.InOrder → a.toJson.sorted.member? name = v.member? name)) := by
  refine ⟨fun h clock p analysis options maxSteps ops world s reached => ?_,
    fun v s read => RunState.decode_again read, fun v a read => ?_⟩
  · have recorded : s.Recorded := reached ▸ (Debugger.recorded_kept clock).operateAll ops
      (RunState.recorded_initial p)
    exact ⟨RunState.decode_written Json.arranges_id recorded.unsorted,
      RunState.decode_written Json.arranges_sorted recorded.toLegible,
      fun e member success => recorded.output member success⟩
  · obtain ⟨written, ordered⟩ := Analysis.decode_again read
    refine ⟨written, ordered, fun name notIntent notSummary => ?_⟩
    exact Analysis.extra_kept read (by simp [Analysis.isExtra, notIntent, notSummary])

theorem Timestamp.inCalendar_origin : InCalendar .origin :=
  ⟨by decide, by decide, .inl (by decide)⟩

theorem greeting_read_back :
    let s := (Debugger.operateAll (.ofAnswers echo) [.command .resume]
      (.start .greeting none .standard 1000) ()).1.state
    let said := Json.obj [("author", .str "ops"), ("intent", .str "greet")]
    s.status = .completed ∧ s.history.map (·.success) = [true, true, true, true] ∧
      (∀ e ∈ s.history, e.success = true → ∃ j, e.output = some j ∧ j ≠ .null) ∧
      RunState.decode s.toJson.sorted = .ok s ∧ RunState.decode s.toJson = .ok s ∧
      ∃ a, Analysis.decode said = .ok a ∧ said.InOrder ∧ Analysis.decode a.toJson.sorted = .ok a ∧
        a.toJson.sorted.member? "author" = some (.str "ops") := by
  intro s said
  have clock : ∀ world, ((Host.ofAnswers echo).now world).InCalendar := fun _ =>
    Timestamp.inCalendar_origin
  have analyzed : Analysis.decode said =
      .ok ⟨some "greet", none, Table.ofList [("author", .str "ops")]⟩ := rfl
  have inOrder : said.InOrder :=
    Json.inOrder_named ["author", "intent"] rfl (by decide) (by simp [InOrder, Json.sorted])
  obtain ⟨runs, states, analyses⟩ := states_read_back
  obtain ⟨_, ordered, outputs⟩ :=
    runs (.ofAnswers echo) clock .greeting none .standard 1000 [.command .resume] () s rfl
  obtain ⟨-, again, kept⟩ := analyses said _ analyzed
  exact ⟨by decide +kernel, by decide +kernel, outputs, ordered,
    (states s.toJson.sorted s ordered).1, _, analyzed, inOrder, again inOrder,
    (kept "author" (by decide) (by decide)).2 inOrder⟩

end Stepwise
