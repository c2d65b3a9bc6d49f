import Stepwise.Proofs.Debugger.Recast
import Stepwise.Proofs.Session.Isolation
/-!
What the log of a session tells. It holds one record for each command that the session was given, in
order, from which the command can be read back; and unless breakpoints or the risk level were
touched, those commands by themselves lead a fresh run to where the session stands.
-/

namespace Stepwise

theorem DebugCommand.ofRequest_params (c : DebugCommand) : ofRequest c.name c.params = .ok c := by
  cases c with
  | evaluate expression => rfl
  | inspect name => rfl
  | _ => rfl

def CommandRecord.request (record : CommandRecord) : Except Refusal DebugCommand :=
  DebugCommand.ofRequest record.command record.params

namespace Debugger

variable {σ : Type} (h : Host σ)

/-- The commands that a run is given as it is started, with whether they succeed. -/
def firstCommands (d : Debugger) (world : σ) : List (DebugCommand × Bool) :=
  if d.options.autoContinue then [(.resume, (d.execute h .resume world).1.1.success)] else []

variable (f : Option Analysis → Option Analysis) (g : Bool → Bool)

theorem record_recast (d : Debugger) (op : Operation) (world : σ) :
    (d.recast f g).record h op world = d.record h op world := by
  cases op with
  | command command => simp only [record, execute_recast]
  | breakpoint stepId enabled => rfl
  | riskLevel level => rfl

theorem replay_recast (ops : List (Operation × σ)) (d : Debugger) :
    (d.recast f g).replay h ops = ((d.replay h ops).1, (d.replay h ops).2.recast f g) := by
  induction ops generalizing d with
  | nil => rfl
  | cons first rest ih => simp only [replay, record_recast, operate_recast, ih]

theorem replay_alike {τ : Type} {h : Host σ} {again : Host τ} {answer : Request → Reply}
    (answers : h.Answers answer) (answers' : again.Answers answer) {ops : List (Operation × σ)}
    {ops' : List (Operation × τ)} (same : ops.map (·.1) = ops'.map (·.1)) (d : Debugger) :
    ((d.recast f g).replay again ops').1.map CommandRecord.untimed =
        (d.replay h ops).1.map CommandRecord.untimed ∧
      ((d.recast f g).replay again ops').2.state.untimed = (d.replay h ops).2.state.untimed := by
  have clockless : ops'.map (fun op => (op.1, ())) = ops.map fun op => (op.1, ()) := by
    have given := congrArg (List.map fun op => (op, ())) same.symm
    simpa [Function.comp_def] using given
  have once := replay_untimed answers ops d
  have twice := replay_untimed answers' ops' d
  rw [clockless, ← once] at twice
  obtain ⟨records, runs⟩ := Prod.mk.inj twice
  rw [replay_recast]
  exact ⟨records, congrArg Debugger.state runs⟩

theorem breakpoint_still {d : Debugger} {stepId : String} {enabled : Bool} {world : σ}
    (still : (d.operate h (.breakpoint stepId enabled) world).1.state.breakpoints =
      d.state.breakpoints) : (d.operate h (.breakpoint stepId enabled) world).1 = d := by
  cases set : d.setBreakpoint stepId enabled with
  | error refusal => simp only [operate, set]
  | ok changed =>
    simp only [operate, set] at still ⊢
    obtain ⟨-, marked⟩ := setBreakpoint_ok set
    rw [marked] at still ⊢
    simp only [Debugger.marked] at still ⊢
    rw [still]

end Debugger

theorem CommandRecord.requests_of_told {log : List CommandRecord}
    {applied : List (DebugCommand × Bool)}
    (told : log.map (fun record => (record.command, record.params, record.success)) =
      applied.map fun a => (a.1.name, a.1.params, a.2)) :
    log.map CommandRecord.request = applied.map fun a => .ok a.1 := by
  have read := congrArg (List.map fun entry => DebugCommand.ofRequest entry.1 entry.2.1) told
  simp only [List.map_map, Function.comp_def, DebugCommand.ofRequest_params] at read
  exact read

namespace Registry

variable {σ : Type} (h : Host σ)

/-- The command that a session carried out by a call, as its response tells, and its success. -/
def carriedOut (id : String) : Call × Response → Option (DebugCommand × Bool)
  | (.execute other command, .outcome outcome) =>
    if other = id then some (command, outcome.success) else none
  | _ => none

def breakpoints? (r : Registry) (id : String) : Option Names :=
  (r.sessions.get? id).map (·.debugger.state.breakpoints)

def Spares (id : String) (r : Registry) (c : Call) (world : σ) : Prop :=
  (∀ level, c ≠ .setRiskLevel id level) ∧
    ∀ stepId action, c = .setBreakpoint id stepId action →
      (r.call h c world).1.2.breakpoints? id = r.breakpoints? id

def SparesAll (id : String) : List (Call × σ) → Registry → Prop
  | [], _ => True
  | (c, world) :: rest, r => Spares h id r c world ∧ SparesAll id rest (r.call h c world).1.2

theorem sparesAll_snoc {id : String} {calls : List (Call × σ)} {c : Call} {world : σ}
    {r : Registry} : SparesAll h id (calls ++ [(c, world)]) r ↔
      SparesAll h id calls r ∧ Spares h id (callAll h calls r) c world := by
  induction calls generalizing r with
  | nil => simp [SparesAll, callAll]
  | cons first rest ih => simp [SparesAll, callAll, ih, and_assoc]

def applied (alone : Debugger) (world : σ) (id : String) (after : List (Call × σ))
    (started : Registry) : List (DebugCommand × Bool) :=
  alone.firstCommands h world ++ (trace h after started).filterMap (carriedOut id)

/-- A session's log tells the commands it was given; and where nothing else made a difference, those
commands have led it to where it stands. -/
structure Tells (alone : Debugger) (world : σ) (id : String) (after : List (Call × σ))
    (started : Registry) (s : Session) : Prop where
  log : s.log.map (fun record => (record.command, record.params, record.success)) =
    (applied h alone world id after started).map fun a => (a.1.name, a.1.params, a.2)
  replayed : SparesAll h id after started → ∃ ops : List (Operation × σ),
    ops.map (·.1) = (applied h alone world id after started).map (fun a => .command a.1) ∧
      (s.log, s.debugger) = alone.replay h ops

theorem applied_snoc (alone : Debugger) (world : σ) (id : String) (after : List (Call × σ))
    (started : Registry) (c : Call) (time : σ) :
    applied h alone world id (after ++ [(c, time)]) started =
      applied h alone world id after started ++
        (carriedOut id (c, ((callAll h after started).call h c time).1.1)).toList := by
  simp only [applied, trace_snoc, List.filterMap_append, List.append_assoc]
  cases told : carriedOut id (c, ((callAll h after started).call h c time).1.1) with
  | none => simp [told]
  | some a => simp [told]

theorem applied_silent {id : String} {after : List (Call × σ)} {started : Registry} {c : Call}
    {time : σ} (silent : ∀ response, carriedOut id (c, response) = none) (alone : Debugger)
    (world : σ) : applied h alone world id (after ++ [(c, time)]) started =
      applied h alone world id after started := by
  rw [applied_snoc, silent]
  exact List.append_nil _

theorem carriedOut_aside {id : String} {c : Call}
    (aside : c.session? = some id → c.operation? = none) (response : Response) :
    carriedOut id (c, response) = none := by
  cases c with
  | execute other command =>
    have differ : other ≠ id := fun same => nomatch aside (congrArg some same)
    cases response with
    | outcome outcome => simp [carriedOut, differ]
    | _ => rfl
  | _ => rfl

theorem call_execute {r : Registry} {id : String} {s : Session}
    (found : r.sessions.get? id = some s) (command : DebugCommand) (world : σ) :
    (r.call h (.execute id command) world).1.1 =
      .outcome (s.debugger.execute h command world).1.1 := by
  simp only [call, execute, find_ok found]
  rfl

variable {h} {alone : Debugger} {world : σ} {id : String} {after : List (Call × σ)}
  {started : Registry} {s : Session}

theorem tells_opened (program : Program) (analysis : Option Analysis) (options : Options)
    (maxSteps : Nat) (id : String) (world : σ) (started : Registry) :
    Tells h (.start program analysis options maxSteps) world id [] started
      (Session.opened h id program analysis options maxSteps world).1 := by
  have replayed := opened_replay (h := h) id program analysis options maxSteps world
  have wish : (Debugger.start program analysis options maxSteps).options.autoContinue =
      options.autoContinue := rfl
  cases on : options.autoContinue with
  | false =>
    refine ⟨?_, fun _ => ⟨[], ?_, ?_⟩⟩
    · simp only [applied, Debugger.firstCommands, wish, Session.opened, on]
      rfl
    · simp only [applied, Debugger.firstCommands, wish, on]
      rfl
    · simpa [opening, on] using replayed
  | true =>
    refine ⟨?_, fun _ => ⟨[(.command .resume, world)], ?_, ?_⟩⟩
    · simp only [applied, Debugger.firstCommands, wish, Session.opened, on]
      rfl
    · simp only [applied, Debugger.firstCommands, wish, on]
      rfl
    · simpa [opening, on] using replayed

theorem Tells.aside (tells : Tells h alone world id after started s) {c : Call} (time : σ)
    (aside : c.session? = some id → c.operation? = none) :
    Tells h alone world id (after ++ [(c, time)]) started s := by
  have same : applied h alone world id (after ++ [(c, time)]) started =
      applied h alone world id after started :=
    applied_silent h (carriedOut_aside aside) alone world
  refine ⟨?_, fun spared => ?_⟩
  · rw [same]
    exact tells.log
  · rw [same]
    exact tells.replayed ((sparesAll_snoc h).1 spared).1

theorem Tells.command (tells : Tells h alone world id after started s)
    (found : (callAll h after started).sessions.get? id = some s) (command : DebugCommand)
    (time : σ) :
    Tells h alone world id (after ++ [(.execute id command, time)]) started
      (s.operate h (.command command) time).1 := by
  have more : applied h alone world id (after ++ [(.execute id command, time)]) started =
      applied h alone world id after started ++
        [(command, (s.debugger.execute h command time).1.1.success)] := by
    rw [applied_snoc, call_execute h found]
    simp [carriedOut]
  obtain ⟨log, debugger⟩ := Prod.mk.inj (operate_replay (h := h) s (.command command) time)
  refine ⟨?_, fun spared => ?_⟩
  · rw [more, log, List.map_append, tells.log, List.map_append]
    rfl
  · obtain ⟨ops, given, replayed⟩ := tells.replayed ((sparesAll_snoc h).1 spared).1
    refine ⟨ops ++ [(.command command, time)], ?_, ?_⟩
    · rw [more, List.map_append, given, List.map_append]
      rfl
    · rw [Debugger.replay_snoc, ← replayed, log, debugger]

theorem breakpoints_call {r : Registry} (found : r.sessions.get? id = some s) (own : s.id = id)
    (stepId : String) (action : BreakpointAction) (time : σ) :
    (r.call h (.setBreakpoint id stepId action) time).1.2.breakpoints? id =
      some (s.debugger.operate h (.breakpoint stepId (action == .set))
        time).1.state.breakpoints := by
  let op := Operation.breakpoint stepId (action == .set)
  have put : (r.call h (.setBreakpoint id stepId action) time).1.2 =
      r.put (s.operate h op time).1 := by
    simp only [call, setBreakpoint_found h found]
    cases s.debugger.setBreakpoint stepId (action == .set) with
    | error refusal => rfl
    | ok changed => rfl
  rw [put, breakpoints?, get?_put, Session.operate_id, if_pos own.symm]
  rfl

theorem Tells.breakpoint (tells : Tells h alone world id after started s)
    (found : (callAll h after started).sessions.get? id = some s) (own : s.id = id)
    (stepId : String) (action : BreakpointAction) (time : σ) :
    Tells h alone world id (after ++ [(.setBreakpoint id stepId action, time)]) started
      (s.operate h (.breakpoint stepId (action == .set)) time).1 := by
  have same : applied h alone world id (after ++ [(.setBreakpoint id stepId action, time)])
      started = applied h alone world id after started :=
    applied_silent h (fun _ => rfl) alone world
  refine ⟨?_, fun spared => ?_⟩
  · rw [same]
    exact tells.log
  · obtain ⟨earlier, -, kept⟩ := (sparesAll_snoc h).1 spared
    have marks := kept stepId action rfl
    rw [breakpoints_call found own, breakpoints?, found] at marks
    have still := Debugger.breakpoint_still h (Option.some.inj marks)
    rw [same]
    obtain ⟨ops, given, replayed⟩ := tells.replayed earlier
    refine ⟨ops, given, ?_⟩
    rw [← replayed]
    exact congrArg (Prod.mk s.log) still

theorem Tells.riskLevel (tells : Tells h alone world id after started s) (level : RiskLevel)
    (time : σ) :
    Tells h alone world id (after ++ [(.setRiskLevel id level, time)]) started
      (s.operate h (.riskLevel level) time).1 := by
  refine ⟨?_, fun spared => ?_⟩
  · rw [applied_silent h (fun _ => rfl)]
    exact tells.log
  · exact absurd rfl (((sparesAll_snoc h).1 spared).2.1 level)

def Recorded (h : Host σ) (limits : SessionLimits) (calls : List (Call × σ)) (id : String)
    (s : Session) : Prop :=
  ∃ before program analysis options world after,
    calls = before ++ (.start id program analysis options, world) :: after ∧
    (callAll h before (.empty limits)).checkStart program options = .ok () ∧
    Tells h (.start program analysis options limits.maxSteps) world id after
      (callAll h (before ++ [(.start id program analysis options, world)]) (.empty limits)) s

theorem callAll_append (h : Host σ) (calls more : List (Call × σ)) (r : Registry) :
    callAll h (calls ++ more) r = callAll h more (callAll h calls r) := by
  induction calls generalizing r with
  | nil => rfl
  | cons first rest ih => exact ih _

theorem recorded_callAll (limits : SessionLimits) (calls : List (Call × σ)) {id : String}
    {s : Session} (found : (callAll h calls (.empty limits)).sessions.get? id = some s) :
    Recorded h limits calls id s := by
  induction calls using List.reverseRecOn generalizing s with
  | nil => exact nomatch found
  | append_singleton calls last ih =>
    obtain ⟨c, time⟩ := last
    have keyed := keyed_callAll h calls limits
    have capped := limits_callAll h calls limits
    rw [callAll_snoc] at found
    cases (call_cases h _ _ _).whence keyed found with
    | @started program analysis options start admitted =>
      subst start
      refine ⟨calls, program, analysis, options, time, [], rfl, admitted, ?_⟩
      rw [capped]
      exact tells_opened program analysis options limits.maxSteps id time _
    | stays there aside =>
      obtain ⟨before, program, analysis, options, world, after, rfl, admitted, tells⟩ := ih there
      exact ⟨before, program, analysis, options, world, after ++ [(c, time)], by simp, admitted,
        tells.aside time aside⟩
    | @operated t op named asks there =>
      obtain ⟨before, program, analysis, options, world, after, rfl, admitted, tells⟩ := ih there
      refine ⟨before, program, analysis, options, world, after ++ [(c, time)], by simp, admitted,
        ?_⟩
      have along : callAll h (before ++ (.start id program analysis options, world) :: after)
          (.empty limits) = callAll h after (callAll h
            (before ++ [(.start id program analysis options, world)]) (.empty limits)) := by
        rw [← callAll_append]
        simp
      rw [along] at there
      cases c with
      | execute other command =>
        obtain rfl := Option.some.inj named
        obtain rfl := Option.some.inj asks
        exact tells.command there command time
      | setBreakpoint other stepId action =>
        obtain rfl := Option.some.inj named
        obtain rfl := Option.some.inj asks
        exact tells.breakpoint there (keyed _ _ (along ▸ there)).own stepId action time
      | setRiskLevel other level =>
        obtain rfl := Option.some.inj named
        obtain rfl := Option.some.inj asks
        exact tells.riskLevel level time
      | _ => cases asks

theorem Tells.redone {answer : Request → Reply} (tells : Tells h alone world id after started s)
    (answers : h.Answers answer) (spared : SparesAll h id after started) {τ : Type}
    {again : Host τ} (answers' : again.Answers answer) (said : Option Analysis)
    {commands : List (DebugCommand × τ)}
    (recovered : s.log.map CommandRecord.request = commands.map fun c => .ok c.1) :
    let redone := (alone.recast (fun _ => said) fun wish => wish).replay again
      (commands.map fun c => (.command c.1, c.2))
    redone.2.state.untimed = s.debugger.state.untimed ∧
      redone.1.map CommandRecord.untimed = s.log.map CommandRecord.untimed := by
  intro redone
  obtain ⟨ops, given, replayed⟩ := tells.replayed spared
  have read : (applied h alone world id after started).map (·.1) = commands.map (·.1) := by
    have requests := CommandRecord.requests_of_told tells.log
    refine (List.map_inj_right fun a b same => Except.ok.inj (ε := Refusal) same).1 ?_
    rw [List.map_map, List.map_map]
    exact requests.symm.trans recovered
  have same : ops.map (·.1) = (commands.map fun c => (Operation.command c.1, c.2)).map (·.1) := by
    have operations := congrArg (List.map Operation.command) read
    simp only [List.map_map, Function.comp_def] at operations ⊢
    exact given.trans operations
  have alike := Debugger.replay_alike (fun _ => said) (fun wish => wish) answers answers' same alone
  rw [← replayed] at alike
  exact alike.symm

end Registry

/-- What the log of a session tells, whatever was called and whatever the host answers: every
command that the session was given, in order, with whether it succeeded, in a form that reads back
as that command. And where no breakpoint was changed, no risk level set, and commands are answered
by a function, the commands so read make of a fresh run of the same program, under any clock and
whatever is said of it, what the session is, and they are recorded alike. -/
theorem log_tells_commands {σ : Type} {h : Host σ} (limits : SessionLimits)
    (calls : List (Registry.Call × σ)) {id : String} {s : Session}
    (found : (Registry.callAll h calls (.empty limits)).sessions.get? id = some s) :
    ∃ before program analysis options world after,
      calls = before ++ (.start id program analysis options, world) :: after ∧
      (Registry.callAll h before (.empty limits)).checkStart program options = .ok () ∧
      let alone := Debugger.start program analysis options limits.maxSteps
      let started := Registry.callAll h
        (before ++ [(.start id program analysis options, world)]) (.empty limits)
      let applied := alone.firstCommands h world ++
        (Registry.trace h after started).filterMap (Registry.carriedOut id)
      s.log.map (fun record => (record.command, record.params, record.success)) =
          applied.map (fun a => (a.1.name, a.1.params, a.2)) ∧
        s.log.map CommandRecord.request = applied.map (fun a => .ok a.1) ∧
        (Registry.SparesAll h id after started →
          ∀ {answer : Request → Reply}, h.Answers answer →
          ∀ {τ : Type} {again : Host τ}, again.Answers answer →
          ∀ (said : Option Analysis) (commands : List (DebugCommand × τ)),
            s.log.map CommandRecord.request = commands.map (fun c => .ok c.1) →
            let fresh := Debugger.start program said options limits.maxSteps
            let redone := fresh.replay again (commands.map fun c => (.command c.1, c.2))
            redone.2.state.untimed = s.debugger.state.untimed ∧
              redone.1.map CommandRecord.untimed = s.log.map CommandRecord.untimed) := by
  obtain ⟨before, program, analysis, options, world, after, split, admitted, tells⟩ :=
    Registry.recorded_callAll (h := h) limits calls found
  refine ⟨before, program, analysis, options, world, after, split, admitted, tells.log,
    CommandRecord.requests_of_told tells.log, ?_⟩
  intro spared answer answers τ again answers' said commands recovered
  exact tells.redone answers spared answers' said recovered

def Registry.ledger : List (Registry.Call × Nat) :=
  [(.start "kept" .greeting none { Options.standard with autoContinue := true }, 0),
    (.start "other" .greeting none .standard, 4),
    (.execute "kept" .reset, 5),
    (.setBreakpoint "kept" "nowhere" .set, 6),
    (.setRiskLevel "other" .low, 7),
    (.execute "kept" .stepOver, 8),
    (.execute "kept" (.evaluate "$said"), 9)]

theorem ledger_told :
    ∃ s, (Registry.callAll .echoing Registry.ledger (.empty ⟨2, 60, 5⟩)).sessions.get? "kept" =
        some s ∧
      s.log.map CommandRecord.request =
        [.ok .resume, .ok .reset, .ok .stepOver, .ok (.evaluate "$said")] ∧
      let options := { Options.standard with autoContinue := true }
      let redone := (Debugger.start .greeting none options 5).replay (.ofAnswers echo)
        [(.command .resume, ()), (.command .reset, ()), (.command .stepOver, ()),
          (.command (.evaluate "$said"), ())]
      redone.2.state.untimed = s.debugger.state.untimed ∧
        redone.1.map CommandRecord.untimed = s.log.map CommandRecord.untimed := by
  have answers : Host.echoing.Answers echo := fun _ _ => rfl
  have there : ((Registry.callAll .echoing Registry.ledger (.empty ⟨2, 60, 5⟩)).sessions.get?
      "kept").isSome = true := by decide +kernel
  obtain ⟨s, found⟩ := Option.isSome_iff_exists.1 there
  obtain ⟨before, program, analysis, options, world, after, split, -, told⟩ :=
    log_tells_commands ⟨2, 60, 5⟩ Registry.ledger found
  have first : before = [] := by
    cases before with
    | nil => rfl
    | cons call rest =>
      have later : ∀ c ∈ Registry.ledger.tail, c.1.startId? ≠ some "kept" := by decide
      refine absurd rfl (later (.start "kept" program analysis options, world) ?_)
      rw [split]
      simp
  subst first
  obtain ⟨start, rfl⟩ := List.cons.inj split
  cases start
  obtain ⟨-, requests, redone⟩ := told
  have read : s.log.map CommandRecord.request =
      [DebugCommand.resume, .reset, .stepOver, .evaluate "$said"].map .ok := by
    refine requests.trans ((List.map_map (f := Prod.fst) (g := Except.ok)).symm.trans ?_)
    exact congrArg _ (by decide +kernel)
  refine ⟨s, found, read, ?_⟩
  have answers' : (Host.ofAnswers echo).Answers echo := fun _ _ => rfl
  refine redone ⟨⟨nofun, nofun⟩, ⟨nofun, nofun⟩, ⟨nofun, ?_⟩, ⟨?_, nofun⟩, ⟨nofun, nofun⟩,
    ⟨nofun, nofun⟩, trivial⟩ answers answers' none
    [(.resume, ()), (.reset, ()), (.stepOver, ()), (.evaluate "$said", ())] read
  · rintro stepId action asked
    cases asked
    decide +kernel
  · intro level asked
    exact absurd (Registry.Call.setRiskLevel.inj asked).1 (by decide)

end Stepwise
