import Stepwise.Proofs.Debugger.Extent
import Stepwise.Proofs.Debugger.SafeMode
import Stepwise.Proofs.Debugger.Schedule
/-!
Refusals that are lifted leave no trace. A run is compared with what it would be had nothing been
refused: the refusals are struck from its history and one that stops it is lifted. Seen so, stepping
over either leaves the run as it is, because a command was refused, or does what it does at a level
at which nothing is; and changes of the level do nothing at all.
-/

namespace Stepwise

def TraceEntry.isRefusal (e : TraceEntry) : Bool :=
  RiskLevel.all.any fun level => e.error == some (StepError.riskBlocked level).message

def RunState.unrefused (s : RunState) : RunState :=
  { s with history := s.history.filter (!·.isRefusal) }

theorem StepError.kind_of_message {cause : StepError} {level : RiskLevel}
    (same : cause.message = (StepError.riskBlocked level).message) : cause.kind = .riskBlocked := by
  have head := congrArg (·.toList.head?) same
  simp only [head_message] at head
  cases cause with
  | riskBlocked _ => rfl
  | aborted _ | exited _ _ | noOptions | stepLimit _ | unknownStep _ => simp at head

theorem Evaluated.Fits.isRefusal_iff {s : Step} {v : Variables} {e : Evaluated} (fits : e.Fits s v)
    (span : Span) :
    (e.result.entry span).isRefusal = true ↔
      e.result.errorKind = some .riskBlocked := by
  have error : (e.result.entry span).error = e.result.error := rfl
  simp only [TraceEntry.isRefusal, List.any_eq_true, error, beq_iff_eq]
  cases success : e.result.success with
  | true =>
    obtain ⟨silent, noKind⟩ := fits.succeeded success
    simp [silent, noKind]
  | false =>
    obtain ⟨-, cause, -, error, kind⟩ := fits.failed success
    rw [error, kind]
    constructor
    · rintro ⟨level, -, same⟩
      rw [StepError.kind_of_message (Option.some.inj same)]
    · intro risk
      cases cause with
      | riskBlocked level =>
        have listed : level ∈ RiskLevel.all := by
          cases level with
          | low | medium | high => simp [RiskLevel.all]
        exact ⟨level, listed, rfl⟩
      | aborted _ | exited _ _ | noOptions | stepLimit _ | unknownStep _ =>
        simp [StepError.kind] at risk

namespace Debugger

variable {σ : Type} {h : Host σ} {answer : Request → Reply}

/-- A run as it would be at a level at which nothing is refused. -/
def pardoned (d : Debugger) : Debugger :=
  { d with
    options := d.options.raised
    state := { d.state.unrefused with
      status :=
        if d.state.status = .initialized ∨ d.isRiskBlocked = true then .paused else d.state.status
      failure := if d.isRiskBlocked then none else d.state.failure } }

theorem pardoned_level (d : Debugger) (level : RiskLevel) :
    (d.setRiskLevel level).2.pardoned = d.pardoned := by
  rcases setRiskLevel_cases d level with ⟨error, failure, -, set⟩ | ⟨-, set⟩
  · have blocked := d.isRiskBlocked_iff.2 ⟨error, failure⟩
    have lifting : (d.atLevel level).lifted.isRiskBlocked = false := not_blocked rfl
    rw [set]
    simp only [pardoned, blocked, lifting]
    simp [lifted, atLevel, Options.raised, RunState.unrefused]
  · rw [set]
    rfl

theorem pardoned_live {d : Debugger} (live : d.state.status.isFinal = false)
    (quiet : d.state.status ≠ .running) (clean : d.state.failure = none) :
    d.pardoned = { d with
      options := d.options.raised
      state := { d.state.unrefused with status := .paused } } := by
  have free := not_blocked clean
  have status : (if d.state.status = .initialized ∨ False then Status.paused else d.state.status) =
      .paused := by
    cases status : d.state.status with
    | initialized | paused => rfl
    | running => exact absurd status quiet
    | completed | error => simp [status, Status.isFinal] at live
  simp only [pardoned, free, Bool.false_eq_true, status, if_false]
  rfl

theorem pardoned_final {d : Debugger} (final : d.state.status.isFinal = true)
    (free : d.isRiskBlocked = false) :
    d.pardoned = { d with options := d.options.raised, state := d.state.unrefused } := by
  have status : d.state.status ≠ .initialized := by
    intro initial
    simp [initial, Status.isFinal] at final
  simp only [pardoned, free, status, Bool.false_eq_true, or_self, if_false]
  rfl

theorem pardoned_ended {d : Debugger} (final : d.state.status.isFinal = true)
    (free : d.isRiskBlocked = false) :
    (d.pardoned.bare ∅).state = d.state.unrefused.bare ∅ := by
  rw [pardoned_final final free]
  rfl

theorem pardoned_fail (d : Debugger) (stepId : String) {cause : StepError} (time : Timestamp)
    (other : cause.kind ≠ .riskBlocked) :
    (d.fail stepId cause time).pardoned = d.pardoned.fail stepId cause time := by
  have free : (d.fail stepId cause time).isRiskBlocked = false := by
    simp [isRiskBlocked, Debugger.fail, RunState.fail, other]
  rw [pardoned_final rfl free]
  rfl

theorem pardoned_advance {d : Debugger} (clean : d.state.failure = none) (c : Cursor) :
    (d.advance c).pardoned = d.pardoned.advance c := by
  have free := not_blocked clean
  have free' : (d.advance c).isRiskBlocked = false := not_blocked clean
  simp only [pardoned, free, free']
  cases next : c.next d.program with
  | none => simp [advance, next, RunState.unrefused]
  | some place => simp [advance, next, RunState.unrefused]

section

variable {d : Debugger} {world after : σ} {c : Cursor} {step : Step} {e : Evaluated}
  (evaluates : Evaluates h d world c step e after) (clean : d.state.failure = none)
  (span : Span)
include evaluates clean

theorem pardoned_evaluated (free : e.result.errorKind ≠ some .riskBlocked) :
    (d.evaluated e span).pardoned = d.pardoned.evaluated e span := by
  have told : (e.result.entry span).isRefusal = false :=
    Bool.eq_false_iff.2 (mt (evaluates.fits.isRefusal_iff span).1 free)
  have unblocked := not_blocked clean
  have unblocked' : (d.evaluated e span).isRiskBlocked = false := not_blocked clean
  simp only [pardoned, unblocked, unblocked']
  simp [evaluated, RunState.unrefused, told]

theorem pardoned_refused (quiet : d.state.status ≠ .running) (unchanged : e.vars = d.state.vars)
    {cause : StepError} (kind : e.result.errorKind = some cause.kind)
    (risk : cause.kind = .riskBlocked) (time : Timestamp) :
    ((d.evaluated e span).fail step.id cause time).pardoned = d.pardoned := by
  have told : (e.result.entry span).isRefusal = true :=
    (evaluates.fits.isRefusal_iff span).2 (by rw [kind, risk])
  have blocked : ((d.evaluated e span).fail step.id cause time).isRiskBlocked =
      true := by
    simp [isRiskBlocked, Debugger.fail, RunState.fail, risk]
  rw [pardoned_live evaluates.live quiet clean, pardoned, blocked]
  simp [Debugger.fail, RunState.fail, evaluated, RunState.unrefused, told, unchanged, clean]

omit span in
theorem Evaluates.pardoned (quiet : d.state.status ≠ .running)
    (free : e.result.errorKind ≠ some .riskBlocked) :
    Evaluates h d.pardoned world c step e after := by
  have plan := step.plan_raised fun template tried =>
    step.clear_of_outcome _ _ evaluates.outcome free tried
  rw [pardoned_live evaluates.live quiet clean]
  exact ⟨rfl, evaluates.current, evaluates.left, evaluates.found,
    plan ▸ evaluates.outcome, evaluates.fits⟩

end

variable {p : Program} {maxSteps : Nat}

/-- Stepping over either leaves a run as it would be had nothing been refused, for a command was, or
does what it would then do. -/
theorem StepOver.pardoned {d next : Debugger} {world after : σ}
    {result : Option StepResult} (moved : StepOver h d world result next after)
    (rest : AtRest p maxSteps d) (valid : p.WellFormed) (live : d.state.status.isFinal = false) :
    next.pardoned = d.pardoned ∨ next.pardoned = (d.pardoned.stepOver h world).1.2 := by
  have quiet := rest.notRunning
  have clean := rest.noFailure live
  cases moved with
  | stands final => simp [live] at final
  | ends _ current => exact absurd current (rest.live_cursor live)
  | limited _ current spent =>
    right
    rw [pardoned_fail _ _ _ (by simp [StepError.kind]), pardoned_live live quiet clean]
    simp [Debugger.stepOver, current, spent, Status.isFinal, RunState.unrefused]
  | lost _ current unknown => exact absurd unknown (rest.step_known valid current)
  | @succeeds c step e after evaluates success =>
    right
    have free : e.result.errorKind ≠ some .riskBlocked := by
      simp [(evaluates.fits.succeeded success).2]
    have same := evaluates.pardoned clean quiet free
    have stays : (d.evaluated e (h.span world (h.wait after))).state.failure = none := clean
    rw [same.stepOver, evaluateAt_succeeds h same.outcome success, pardoned_advance stays,
      pardoned_evaluated evaluates clean _ free]
  | @fails c step e after cause evaluates failure unchanged canStop error kind =>
    by_cases risk : cause.kind = .riskBlocked
    · left
      exact pardoned_refused evaluates clean _ quiet unchanged kind risk _
    · right
      have free : e.result.errorKind ≠ some .riskBlocked := by simpa [kind] using risk
      have same := evaluates.pardoned clean quiet free
      rw [same.stepOver, evaluateAt_fails h same.outcome failure c error kind,
        pardoned_fail _ _ _ risk, pardoned_evaluated evaluates clean _ free]

theorem stepMany_pardoned (valid : p.WellFormed)
    (answers : h.Answers answer) (n : Nat) {d : Debugger} (rest : AtRest p maxSteps d) (world : σ) :
    ∃ m, (d.stepMany h n world).1.pardoned.bare ∅ =
      ((d.pardoned.bare ∅).stepMany (.ofAnswers answer) m ()).1 := by
  induction n generalizing d world with
  | zero => exact ⟨0, rfl⟩
  | succ n ih =>
    have moved := stepOver_cases h d world
    obtain ⟨m, later⟩ := ih (rest.step valid moved) (d.stepOver h world).2
    rw [stepMany_succ, later]
    cases final : d.state.status.isFinal with
    | true =>
      have stands : (d.stepOver h world).1.2 = d := by rw [stepOver, if_pos final]
      exact ⟨m, by rw [stands]⟩
    | false =>
      rcases moved.pardoned rest valid final with same | same
      · exact ⟨m, by rw [same]⟩
      · have step := congrArg (·.2) (stepOver_bare answers ∅ d.pardoned world)
        refine ⟨m + 1, ?_⟩
        rw [same, stepMany_succ]
        exact congrArg (fun next => (stepMany (.ofAnswers answer) m next ()).1) step

theorem Operates.pardoned (valid : p.WellFormed)
    (answers : h.Answers answer) {op : Operation} {d next : Debugger} {world after : σ}
    (done : Operates h d world op next after) (noReset : op ≠ .command .reset)
    (rest : AtRest p maxSteps d) :
    ∃ m, next.pardoned.bare ∅ = ((d.pardoned.bare ∅).stepMany (.ofAnswers answer) m ()).1 := by
  cases done with
  | @steps command n => exact stepMany_pardoned valid answers n rest world
  | pauses => exact ⟨0, by rw [pause_eq rest.notRunning]; rfl⟩
  | resets => exact absurd rfl noReset
  | evaluates | inspects | refuses => exact ⟨0, rfl⟩
  | marks set =>
    obtain ⟨-, rfl⟩ := setBreakpoint_ok set
    exact ⟨0, rfl⟩
  | level level => exact ⟨0, by rw [pardoned_level]; rfl⟩

theorem operateAll_pardoned (valid : p.WellFormed)
    (answers : h.Answers answer) {ops : List Operation} (noReset : .command .reset ∉ ops)
    {d : Debugger} (rest : AtRest p maxSteps d) (world : σ) :
    ∃ m, (d.operateAll h ops world).1.pardoned.bare ∅ =
      ((d.pardoned.bare ∅).stepMany (.ofAnswers answer) m ()).1 := by
  induction ops generalizing d world with
  | nil => exact ⟨0, rfl⟩
  | cons op more ih =>
    simp only [List.mem_cons, not_or] at noReset
    obtain ⟨first, others⟩ := noReset
    have done := operate_cases h op d world
    obtain ⟨m, now⟩ := done.pardoned valid answers (Ne.symm first) rest
    obtain ⟨n, later⟩ := ih others ((AtRest.kept h valid maxSteps).operates rest done)
      (h.wait (d.operate h op world).2)
    exact ⟨m + n, by rw [operateAll, later, now, stepMany_add]⟩

structure Barred (d : Debugger) : Prop where
  low : d.options.riskLevel = .low
  left : d.state.stepsExecuted < d.maxSteps
  refused : ∃ f c step template, d.state.failure = some f ∧ d.state.current = some c ∧
    f.stepId = c.stepId ∧ c.step? d.program = some step ∧
    step.template? d.state.vars = some template ∧
    Risk.classify (d.state.vars.fill template) = .high

theorem Barred.of_fails {d : Debugger} {world after : σ} {c : Cursor} {step : Step} {e : Evaluated}
    {cause : StepError} (evaluates : Evaluates h d world c step e after)
    (unchanged : e.vars = d.state.vars) (kind : e.result.errorKind = some cause.kind)
    (risk : cause.kind = .riskBlocked) (span : Span) (time : Timestamp) :
    Barred ((d.evaluated e span).fail step.id cause time) := by
  obtain ⟨template, tried, refused⟩ :=
    step.refused_of_outcome _ _ evaluates.outcome (by rw [kind, risk])
  obtain ⟨low, high⟩ := Options.refuses_iff.1 refused
  rw [← unchanged] at tried high
  exact ⟨low, evaluates.left, _, c, step, template, rfl, evaluates.current,
    Cursor.step?_id evaluates.found, evaluates.found, tried, high⟩

theorem Barred.step {d next : Debugger} {world after : σ} {result : Option StepResult}
    (moved : StepOver h d world result next after) (barred : d.isRiskBlocked = true → Barred d)
    (blocked : next.isRiskBlocked = true) : Barred next := by
  cases moved with
  | stands final => exact barred blocked
  | ends | limited | lost =>
    simp [isRiskBlocked, Debugger.fail, RunState.fail, StepError.kind] at blocked
  | @succeeds c =>
    cases onward : c.next d.program with
    | none => simp [isRiskBlocked, Debugger.advance, evaluated, onward] at blocked
    | some place => simp [isRiskBlocked, Debugger.advance, evaluated, onward] at blocked
  | @fails c step e after cause evaluates failure unchanged canStop error kind =>
    have risk : cause.kind = .riskBlocked := by
      simpa [isRiskBlocked, Debugger.fail, RunState.fail] using blocked
    exact .of_fails evaluates unchanged kind risk _ _

theorem barred_kept (h : Host σ) : Kept h fun d _ => d.isRiskBlocked = true → Barred d where
  stepOver {d world} barred := .step (stepOver_cases h d world) barred
  pause {d _} barred blocked := by
    unfold Debugger.pause at blocked ⊢
    split at blocked
    · simp [isRiskBlocked] at blocked
    · next quiet => exact if_neg quiet ▸ barred blocked
  reset _ blocked := by simp [isRiskBlocked, Debugger.reset, RunState.initial] at blocked
  evaluate _ barred := barred
  breakpoint barred set blocked := by
    obtain ⟨-, rfl⟩ := setBreakpoint_ok set
    have before := barred blocked
    exact ⟨before.low, before.left, before.refused⟩
  riskLevel {d _} level barred blocked := by
    rcases setRiskLevel_cases d level with ⟨-, -, -, set⟩ | ⟨low, set⟩
    · simp [set, isRiskBlocked, lifted] at blocked
    · rw [set] at blocked ⊢
      have before := barred blocked
      exact ⟨low blocked, before.left, before.refused⟩
  wait barred := barred

theorem Operates.above {op : Operation} {d next : Debugger} {world after : σ}
    (done : Operates h d world op next after) (kept : op ≠ .riskLevel .low)
    (above : d.options.riskLevel ≠ .low) : next.options.riskLevel ≠ .low := by
  cases done with
  | steps => rwa [options_stepMany]
  | pauses =>
    unfold pause
    split
    · exact above
    · exact above
  | resets | evaluates | inspects | refuses => exact above
  | marks set =>
    obtain ⟨-, rfl⟩ := setBreakpoint_ok set
    exact above
  | level level =>
    obtain ⟨status, failure, set⟩ := setRiskLevel_state d level
    rw [set]
    exact fun low => kept (congrArg Operation.riskLevel low)

theorem above_operateAll {ops : List Operation} (kept : .riskLevel .low ∉ ops) {d : Debugger}
    (above : d.options.riskLevel ≠ .low) (world : σ) :
    (d.operateAll h ops world).1.options.riskLevel ≠ .low := by
  induction ops generalizing d world with
  | nil => exact above
  | cons op rest ih =>
    simp only [List.mem_cons, not_or] at kept
    exact ih kept.2 ((operate_cases h op d world).above (Ne.symm kept.1) above) _

theorem free_above (d : Debugger) {ops : List Operation} (above : d.options.riskLevel ≠ .low)
    (kept : .riskLevel .low ∉ ops) (free : d.isRiskBlocked = false) (world : σ) :
    (d.operateAll h ops world).1.isRiskBlocked = false := by
  have barred : d.isRiskBlocked = true → Barred d := by simp [free]
  exact Bool.eq_false_iff.2 fun blocked =>
    above_operateAll kept above world ((barred_kept h).operateAll ops barred blocked).low

/-- What lifting a refusal makes of a run: it stands on the step that was refused, and as long as
the level stays above low neither that step nor another is refused. -/
structure Lifts (h : Host σ) (d now : Debugger) : Prop where
  paused : now.state.status = .paused ∧ now.state.failure = none
  current : now.state.current = d.state.current
  refused : ∃ f c template, d.state.failure = some f ∧ now.state.current = some c ∧
    f.stepId = c.stepId ∧ now.template? = some template ∧
    Risk.classify (now.state.vars.fill template) = .high
  retried : ∀ world, ∃ f result, d.state.failure = some f ∧
    (now.stepOver h world).1.1 = some result ∧ result.stepId = f.stepId ∧
    result.errorKind ≠ some .riskBlocked
  onward : ∀ ops, .riskLevel .low ∉ ops → ∀ world,
    let run := now.operateAll h ops world
    run.1.isRiskBlocked = false ∧
      ∀ result, (run.1.stepOver h run.2).1.1 = some result →
        result.errorKind ≠ some .riskBlocked

theorem unrefused_above {d : Debugger} (above : d.options.riskLevel ≠ .low) {world : σ}
    {result : StepResult} (evaluated : (d.stepOver h world).1.1 = some result) :
    result.errorKind ≠ some .riskBlocked :=
  ((guarded h d world).unhindered above).2 result evaluated

theorem Barred.lifts {d : Debugger} (barred : Barred d) {level : RiskLevel}
    (above : level ≠ .low) : Lifts h d (d.atLevel level).lifted := by
  obtain ⟨f, c, step, template, failure, current, place, found, tried, high⟩ := barred.refused
  have pending : (d.atLevel level).lifted.pending? = some step := by
    have left := Nat.not_le.2 barred.left
    simp [pending?, lifted, atLevel, Status.isFinal, left, current, found]
  have tries : (d.atLevel level).lifted.template? = some template := by
    rw [template?, pending]
    exact tried
  refine ⟨⟨rfl, rfl⟩, rfl, ⟨f, c, template, failure, current, place, tries, high⟩, ?_, ?_⟩
  · intro world
    obtain ⟨c', step', current', found', -, steps⟩ := stepOver_tried (h := h) tries world
    obtain rfl : c = c' := Option.some.inj (current.symm.trans current')
    have evaluated := congrArg (·.1.1) steps
    refine ⟨f, _, failure, evaluated, ?_, unrefused_above above evaluated⟩
    rw [evaluateAt_result, place, ← Cursor.step?_id found']
    exact ((plan_fits step' _ _).outcome (Prod.ext rfl rfl)).stepId
  · intro ops kept world run
    exact ⟨free_above _ above kept (not_blocked rfl) world,
      fun result => unrefused_above (above_operateAll kept above world)⟩

theorem lifts_of_setRiskLevel {d : Debugger} (barred : d.isRiskBlocked = true → Barred d)
    {level : RiskLevel} (lifting : (d.setRiskLevel level).1 = true) :
    Lifts h d (d.setRiskLevel level).2 := by
  rcases setRiskLevel_cases d level with ⟨error, failure, above, set⟩ | ⟨-, set⟩
  · rw [set]
    exact (barred (d.isRiskBlocked_iff.2 ⟨error, failure⟩)).lifts above
  · simp [set] at lifting

theorem setRiskLevel_iff (d : Debugger) (level : RiskLevel) :
    (d.setRiskLevel level).1 = true ↔ d.state.status = .error ∧
      (∃ f, d.state.failure = some f ∧ f.kind = .riskBlocked) ∧ level ≠ .low := by
  rcases setRiskLevel_cases d level with ⟨error, risk, above, set⟩ | ⟨low, set⟩
  · simp only [set, true_iff]
    exact ⟨error, risk, above⟩
  · simp only [set, Bool.false_eq_true, false_iff]
    rintro ⟨error, failure, above⟩
    exact above (low (d.isRiskBlocked_iff.2 ⟨error, failure⟩))

end Debugger

/-- Whatever levels an operator sets on the way, a run that ends for another reason than risk ends
as one does to which nothing was refused, and its history tells the same but for the refusals. -/
theorem lifted_refusals_leave_no_trace {σ τ : Type} {first : Host σ} {second : Host τ}
    {answer : Request → Reply} (answers : first.Answers answer) (answers' : second.Answers answer)
    {p : Program} {found : List Diagnostic} (ok : p.check = .ok found)
    (analysis : Option Analysis) (options : Options) (maxSteps : Nat) (ops ops' : List Operation)
    (world : σ) (world' : τ) :
    let d := ((Debugger.start p analysis options maxSteps).operateAll first ops world).1
    let medium := Debugger.start p analysis { options with riskLevel := .medium } maxSteps
    let m := (medium.operateAll second ops' world').1
    (medium.operate second (.command .resume) world').1.state.status.isFinal = true ∧
      (.command .reset ∉ ops → (∀ op ∈ ops', op.onward = true) →
        d.state.status.isFinal = true → d.isRiskBlocked = false → m.state.status.isFinal = true →
        d.state.unrefused.bare ∅ = m.state.unrefused.bare ∅) ∧
      ∀ level, ((d.setRiskLevel level).1 = true ↔ d.state.status = .error ∧
          (∃ f, d.state.failure = some f ∧ f.kind = .riskBlocked) ∧ level ≠ .low) ∧
        ((d.setRiskLevel level).1 = true → Debugger.Lifts first d (d.setRiskLevel level).2) := by
  intro d medium m
  have valid := Program.wellFormed_of_check ok
  have begins (options : Options) :
      (Debugger.start p analysis options maxSteps).AtRest p maxSteps :=
    .start valid analysis options
  refine ⟨Debugger.runFuel_final rfl (Nat.lt_succ_self _) world', ?_, fun level =>
    ⟨d.setRiskLevel_iff level, Debugger.lifts_of_setRiskLevel ?_⟩⟩
  · intro noReset onward final free final'
    have noReset' : .command .reset ∉ ops' := fun member => by
      simpa [Operation.onward] using onward _ member
    have kept : .riskLevel .low ∉ ops' := fun member => by
      simpa [Operation.onward] using onward _ member
    have free' : m.isRiskBlocked = false :=
      medium.free_above (by simp [medium, Debugger.start]) kept rfl world'
    obtain ⟨n, along⟩ := Debugger.operateAll_pardoned valid answers noReset (begins options) world
    obtain ⟨n', along'⟩ := Debugger.operateAll_pardoned valid answers' noReset'
      (begins { options with riskLevel := .medium }) world'
    -- both go along the line of states of the run that starts paused at medium
    have same : (Debugger.start p analysis options maxSteps).pardoned = medium.pardoned := rfl
    rw [same] at along
    have state := Debugger.pardoned_ended final free
    have state' := Debugger.pardoned_ended final' free'
    change (d.state.unrefused.bare ∅).status.isFinal = true at final
    change (m.state.unrefused.bare ∅).status.isFinal = true at final'
    rw [← state, along] at final
    rw [← state', along'] at final'
    rw [← state, ← state', along, along', Debugger.stepMany_final_unique final final']
  · exact (Debugger.barred_kept first).operateAll ops fun blocked => by
      simp [Debugger.isRiskBlocked, Debugger.start, RunState.initial] at blocked

theorem greeting_lifted : ∃ found, Program.greeting.check = .ok found ∧
    let low := Debugger.start .greeting none { Options.standard with riskLevel := .low } 5
    let medium := Debugger.start .greeting none { Options.standard with riskLevel := .medium } 5
    let refused := (low.operateAll .echoing [.command .resume] 0).1
    let d := (low.operateAll .echoing [.command .resume, .riskLevel .medium, .riskLevel .low,
      .command .resume, .riskLevel .high, .command .resume] 0).1
    let m := (medium.operateAll (.ofAnswers echo) [.command .stepOver, .command .resume] ()).1
    d.state.unrefused.bare ∅ = m.state.unrefused.bare ∅ ∧
      Debugger.Lifts .echoing refused (refused.setRiskLevel .high).2 := by
  obtain ⟨found, ok⟩ := (Program.check_ok_iff .greeting).2 Program.greeting_wellFormed
  have answers : Host.echoing.Answers echo := fun _ _ => rfl
  have answers' : (Host.ofAnswers echo).Answers echo := fun _ _ => rfl
  have whole := lifted_refusals_leave_no_trace answers answers' ok none
    { Options.standard with riskLevel := .low } 5
    [.command .resume, .riskLevel .medium, .riskLevel .low, .command .resume, .riskLevel .high,
      .command .resume] [.command .stepOver, .command .resume] 0 ()
  have before := lifted_refusals_leave_no_trace answers answers' ok none
    { Options.standard with riskLevel := .low } 5 [.command .resume] [] 0 ()
  exact ⟨found, ok,
    whole.2.1 (by decide) (by decide) (by decide +kernel) (by decide +kernel) (by decide +kernel),
    (before.2.2 .high).2 (by decide +kernel)⟩

end Stepwise
