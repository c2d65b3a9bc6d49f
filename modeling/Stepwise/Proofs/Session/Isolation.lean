import Stepwise.Proofs.Debugger.Untimed
import Stepwise.Proofs.Session.Call
/-!
Sessions apart from one another. Whatever is called in between, a session stands where one run by
itself stands after the operations that were addressed to it, with the same records of its commands.
-/

namespace Stepwise

def CommandRecord.untimed (record : CommandRecord) : CommandRecord :=
  { record with time := .origin }

namespace Debugger

variable {σ : Type} (h : Host σ)

def record (d : Debugger) (op : Operation) (world : σ) : List CommandRecord :=
  match op with
  | .command c =>
    [⟨c.name, c.params, h.now (d.execute h c world).2, (d.execute h c world).1.1.success⟩]
  | _ => []

/-- Does operations by themselves, each in its own world, and gives the records and the run. -/
def replay : List (Operation × σ) → Debugger → List CommandRecord × Debugger
  | [], d => ([], d)
  | (op, world) :: rest, d =>
    (d.record h op world ++ (replay rest (d.operate h op world).1).1,
      (replay rest (d.operate h op world).1).2)

theorem replay_snoc (ops : List (Operation × σ)) (op : Operation) (world : σ) (d : Debugger) :
    d.replay h (ops ++ [(op, world)]) =
      ((d.replay h ops).1 ++ (d.replay h ops).2.record h op world,
        ((d.replay h ops).2.operate h op world).1) := by
  induction ops generalizing d with
  | nil => simp [replay]
  | cons first rest ih =>
    obtain ⟨op', world'⟩ := first
    simp only [List.cons_append, replay, ih, List.append_assoc]

variable {h} {answer : Request → Reply}

theorem record_untimed (answers : h.Answers answer) (d : Debugger) (op : Operation) (world : σ) :
    (d.record h op world).map CommandRecord.untimed =
      d.untimed.record (.ofAnswers answer) op () := by
  cases op with
  | command c =>
    have reported := congrArg (·.1.success) (execute_untimed answers d c world)
    have success : (d.execute h c world).1.1.success =
        (d.untimed.execute (.ofAnswers answer) c ()).1.1.success := reported
    simp only [record, List.map_cons, List.map_nil, CommandRecord.untimed, success, Host.ofAnswers]
  | breakpoint stepId enabled => rfl
  | riskLevel level => rfl

theorem replay_untimed (answers : h.Answers answer) (ops : List (Operation × σ)) (d : Debugger) :
    ((d.replay h ops).1.map CommandRecord.untimed, (d.replay h ops).2.untimed) =
      d.untimed.replay (.ofAnswers answer) (ops.map fun op => (op.1, ())) := by
  induction ops generalizing d with
  | nil => rfl
  | cons first rest ih =>
    obtain ⟨op, world⟩ := first
    have later := ih (d.operate h op world).1
    rw [operate_untimed answers] at later
    simp only [replay, List.map_cons, List.map_append, record_untimed answers, ← later]

end Debugger

namespace Registry

variable {σ : Type} (h : Host σ)

def addressed (id : String) (calls : List (Call × σ)) : List (Operation × σ) :=
  (calls.filter fun c => c.1.session? == some id).filterMap fun c =>
    c.1.operation?.map fun op => (op, c.2)

def opening (options : Options) (world : σ) : List (Operation × σ) :=
  if options.autoContinue then [(.command .resume, world)] else []

/-- A session is what its own start and what was addressed to it since have made of one run. -/
def Descends (limits : SessionLimits) (calls : List (Call × σ)) (id : String) (s : Session) :
    Prop :=
  ∃ before program analysis options world after,
    calls = before ++ (.start id program analysis options, world) :: after ∧
    (callAll h before (.empty limits)).checkStart program options = .ok () ∧
    (s.log, s.debugger) = (Debugger.start program analysis options limits.maxSteps).replay h
      (opening options world ++ addressed id after)

variable {h}

theorem addressed_append (id : String) (calls more : List (Call × σ)) :
    addressed id (calls ++ more) = addressed id calls ++ addressed id more := by
  simp only [addressed, List.filter_append, List.filterMap_append]

theorem operate_replay (s : Session) (op : Operation) (world : σ) :
    ((s.operate h op world).1.log, (s.operate h op world).1.debugger) =
      (s.log ++ s.debugger.record h op world, (s.debugger.operate h op world).1) := by
  cases op with
  | command c => rfl
  | breakpoint stepId enabled => simp [Session.operate, Session.touch, Debugger.record]
  | riskLevel level => simp [Session.operate, Session.touch, Debugger.record]

theorem opened_replay (id : String) (program : Program) (analysis : Option Analysis)
    (options : Options) (maxSteps : Nat) (world : σ) :
    let s := (Session.opened h id program analysis options maxSteps world).1
    (s.log, s.debugger) =
      (Debugger.start program analysis options maxSteps).replay h (opening options world) := by
  unfold Session.opened opening
  dsimp only
  split
  · rfl
  · rfl

theorem Descends.aside {limits : SessionLimits} {calls : List (Call × σ)} {id : String}
    {s : Session} (descends : Descends h limits calls id s) {c : Call} (world : σ)
    (aside : c.session? = some id → c.operation? = none) :
    Descends h limits (calls ++ [(c, world)]) id s := by
  obtain ⟨before, program, analysis, options, started, after, rfl, admitted, same⟩ := descends
  have silent : addressed id [(c, world)] = [] := by
    by_cases named : c.session? = some id
    · simp [addressed, aside named]
    · simp [addressed, named]
  refine ⟨before, program, analysis, options, started, after ++ [(c, world)], by simp, admitted, ?_⟩
  rw [addressed_append, silent, List.append_nil]
  exact same

theorem Descends.operate {limits : SessionLimits} {calls : List (Call × σ)} {id : String}
    {s : Session} (descends : Descends h limits calls id s) {c : Call} {op : Operation}
    (named : c.session? = some id) (asks : c.operation? = some op) (world : σ) :
    Descends h limits (calls ++ [(c, world)]) id (s.operate h op world).1 := by
  obtain ⟨before, program, analysis, options, started, after, rfl, admitted, same⟩ := descends
  have asked : addressed id [(c, world)] = [(op, world)] := by simp [addressed, named, asks]
  obtain ⟨log, debugger⟩ := Prod.mk.inj same
  refine ⟨before, program, analysis, options, started, after ++ [(c, world)], by simp, admitted, ?_⟩
  rw [addressed_append, asked, ← List.append_assoc, Debugger.replay_snoc, ← log, ← debugger]
  exact operate_replay s op world

theorem Handles.descends {limits : SessionLimits} {calls : List (Call × σ)} {r next : Registry}
    {c : Call} {world : σ} {response : Response} (handled : Handles h r world c response next)
    (reached : callAll h calls (.empty limits) = r)
    (kept : ∀ id s, r.sessions.get? id = some s → Descends h limits calls id s)
    (id : String) (s : Session) (found : next.sessions.get? id = some s) :
    Descends h limits (calls ++ [(c, world)]) id s := by
  have keyed : r.Keyed := reached ▸ keyed_callAll h calls limits
  cases handled.whence keyed found with
  | stays found aside => exact (kept id s found).aside world aside
  | @started program analysis options start admitted =>
    subst start
    have capped : r.limits = limits := reached ▸ limits_callAll h calls limits
    refine ⟨calls, program, analysis, options, world, [], rfl, reached ▸ admitted, ?_⟩
    rw [capped]
    simpa [addressed] using opened_replay id program analysis options limits.maxSteps world
  | operated named asks there => exact (kept id _ there).operate named asks world

theorem descends_callAll (calls : List (Call × σ)) (limits : SessionLimits) (id : String)
    (s : Session) (found : (callAll h calls (.empty limits)).sessions.get? id = some s) :
    Descends h limits calls id s := by
  induction calls using List.reverseRecOn generalizing id s with
  | nil => exact nomatch found
  | append_singleton calls last ih =>
    rw [callAll_snoc] at found
    exact (call_cases h _ _ _).descends rfl ih id s found

end Registry

/-- What became of a session whatever else was called: the run and the records are those of its own
program under the operations that were addressed to it, done in the same worlds; and but for times,
those operations alone determine them. Where no id is used twice, the start is the only one that
gave the id. -/
theorem sessions_apart {σ : Type} {h : Host σ} {answer : Request → Reply}
    (answers : h.Answers answer) (limits : SessionLimits) (calls : List (Registry.Call × σ))
    {id : String} {s : Session}
    (found : (Registry.callAll h calls (.empty limits)).sessions.get? id = some s) :
    ∃ before program analysis options world after,
      calls = before ++ (.start id program analysis options, world) :: after ∧
      (Registry.callAll h before (.empty limits)).checkStart program options = .ok () ∧
      let alone := Debugger.start program analysis options limits.maxSteps
      let ops := Registry.opening options world ++ Registry.addressed id after
      (s.log, s.debugger) = alone.replay h ops ∧
      (s.log.map CommandRecord.untimed, s.debugger.untimed) =
        alone.replay (.ofAnswers answer) (ops.map fun op => (op.1, ())) := by
  obtain ⟨before, program, analysis, options, world, after, split, admitted, same⟩ :=
    Registry.descends_callAll calls limits id s found
  refine ⟨before, program, analysis, options, world, after, split, admitted, same, ?_⟩
  obtain ⟨log, debugger⟩ := Prod.mk.inj same
  rw [log, debugger]
  exact Debugger.replay_untimed answers _ _

def Registry.duet : List (Registry.Call × Nat) :=
  [(.start "first" .greeting none { Options.standard with autoContinue := true }, 0),
    (.start "second" .greeting none .standard, 4),
    (.execute "second" .stepOver, 5),
    (.setBreakpoint "second" "nowhere" .set, 7),
    (.setRiskLevel "first" .low, 8),
    (.list ["first"], 9),
    (.stop "first", 10),
    (.execute "second" (.evaluate "!echo $said"), 11)]

theorem duet_apart :
    ∃ s, (Registry.callAll .echoing Registry.duet (.empty ⟨2, 60, 5⟩)).sessions.get? "second" =
        some s ∧
      ∃ before program analysis options world after,
        Registry.duet = before ++ (.start "second" program analysis options, world) :: after ∧
        (Registry.callAll .echoing before (.empty ⟨2, 60, 5⟩)).checkStart program options = .ok () ∧
        let alone := Debugger.start program analysis options 5
        let ops := Registry.opening options world ++ Registry.addressed "second" after
        (s.log, s.debugger) = alone.replay .echoing ops ∧
        (s.log.map CommandRecord.untimed, s.debugger.untimed) =
          alone.replay (.ofAnswers echo) (ops.map fun op => (op.1, ())) := by
  have answers : Host.echoing.Answers echo := fun _ _ => rfl
  have there : ((Registry.callAll .echoing Registry.duet (.empty ⟨2, 60, 5⟩)).sessions.get?
      "second").isSome = true := by decide +kernel
  obtain ⟨s, found⟩ := Option.isSome_iff_exists.1 there
  exact ⟨s, found, sessions_apart answers ⟨2, 60, 5⟩ Registry.duet found⟩

end Stepwise
