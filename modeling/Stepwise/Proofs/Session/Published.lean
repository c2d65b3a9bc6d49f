import Mathlib.Data.List.Nodup
import Stepwise.Proofs.Session.Ceiling
/-!
Where the sessions stand that cannot be asked. A call locks the session that it is for, and while it
holds the lock the summary last published stands for the session in listings. A command publishes
where the session stands, once it has the lock and before it is applied; a call that sets a
breakpoint or a risk level publishes nothing. So what is published is where the session stood before
its last command, or as it was registered, and a command that has yet to publish is listed by the
command before it.
-/

namespace Stepwise

structure Stand where
  debugger : Debugger
  time : Timestamp

namespace Session

variable {σ : Type} (h : Host σ)

structure Shows (s : Session) (id : String) (stand : Stand) : Prop where
  own : s.id = id
  published : s.published = stand.debugger.summary id s.createdAt stand.time

variable {h} {s : Session} {id : String} {stand : Stand}

theorem Shows.named (shows : s.Shows id stand) : s.Named id :=
  ⟨shows.own, congrArg Summary.sessionId shows.published⟩

theorem publish_shows (own : s.id = id) : s.publish.Shows id ⟨s.debugger, s.lastActivity⟩ := by
  subst own
  exact ⟨rfl, rfl⟩

theorem Shows.touch (shows : s.Shows id stand) (now : Timestamp) : (s.touch now).Shows id stand :=
  ⟨shows.own, shows.published⟩

theorem Shows.progress (shows : s.Shows id stand) (debugger : Debugger)
    (log : List CommandRecord) : Shows { s with debugger, log } id stand :=
  ⟨shows.own, shows.published⟩

theorem apply_published (s : Session) (command : DebugCommand) (world : σ) :
    ∃ debugger log, (s.apply h command world).1.2 =
      { (s.touch (h.now world)).publish with debugger, log } :=
  ⟨_, _, rfl⟩

theorem command_shows (own : s.id = id) (command : DebugCommand) (world : σ) :
    (s.operate h (.command command) world).1.Shows id ⟨s.debugger, h.now world⟩ := by
  obtain ⟨debugger, log, same⟩ := s.apply_published (h := h) command world
  change ((s.apply h command world).1.2).Shows id _
  rw [same]
  have published : (s.touch (h.now world)).publish.Shows id ⟨s.debugger, h.now world⟩ :=
    publish_shows own
  exact published.progress debugger log

theorem opened_shows (id : String) (program : Program) (analysis : Option Analysis)
    (options : Options) (maxSteps : Nat) (world : σ) :
    (opened h id program analysis options maxSteps world).1.Shows id
      ⟨.start program analysis options maxSteps, h.now world⟩ := by
  unfold opened
  dsimp only
  split
  · exact command_shows rfl _ _
  · exact ⟨rfl, rfl⟩

end Session

namespace Registry

variable {σ : Type} (h : Host σ)

/-- The history of stands: a session takes one when it is registered, and one whenever a command is
applied to it. -/
def stands (r : Registry) (c : Call) (world : σ) (stood : Table Stand) : Table Stand :=
  match c with
  | .start id program analysis options =>
    match r.checkStart program options with
    | .ok () =>
      stood.insert id ⟨.start program analysis options r.limits.maxSteps, h.now world⟩
    | .error _ => stood
  | .execute id _ =>
    match r.sessions.get? id with
    | some s => stood.insert id ⟨s.debugger, h.now world⟩
    | none => stood
  | _ => stood

/-- Whether a call goes through while a session is locked. What would operate on the session itself
waits, and a new session gets an id of its own. -/
def Call.Passes (c : Call) (id : String) : Prop :=
  c.startId? ≠ some id ∧ (c.operation? ≠ none → c.session? ≠ some id)

/-- What holds the lock of a session. -/
inductive Hold where
  /-- A command that has yet to publish where the session stands. -/
  | waits
  /-- A command that has published the stand that it begins from. -/
  | applies (began : Stand)
  /-- A call that publishes nothing. -/
  | adjusts

/-- The registries that there can be while sessions are locked, with what holds each lock, and the
stand that was last published of every session. -/
inductive Moment (limits : SessionLimits) : Registry → Table Hold → Table Stand → Prop
  | empty : Moment limits (.empty limits) ∅ ∅
  | call {r : Registry} {locks : Table Hold} {stood : Table Stand}
      (reached : Moment limits r locks stood) (c : Call) (world : σ)
      (passes : ∀ id, locks.contains id = true → c.Passes id) :
      Moment limits (r.call h c world).1.2 locks (r.stands h c world stood)
  /-- A session is in the registry before it begins to run on by itself. -/
  | registers {r : Registry} {locks : Table Hold} {stood : Table Stand}
      (reached : Moment limits r locks stood) {id : String} (fresh : locks.contains id = false)
      {program : Program} {options : Options} (admitted : r.checkStart program options = .ok ())
      {analysis : Option Analysis} {d : Debugger}
      (started : d = .start program analysis options r.limits.maxSteps) (world : σ) :
      Moment limits (r.put (.register id d (h.now world))) locks
        (stood.insert id ⟨d, h.now world⟩)
  | locks {r : Registry} {locks : Table Hold} {stood : Table Stand}
      (reached : Moment limits r locks stood) {id : String} {s : Session}
      (found : r.sessions.get? id = some s) (free : locks.contains id = false) {hold : Hold}
      (early : hold = .waits ∨ hold = .adjusts) : Moment limits r (locks.insert id hold) stood
  | touches {r : Registry} {locks : Table Hold} {stood : Table Stand}
      (reached : Moment limits r locks stood) {id : String} {s : Session}
      (found : r.sessions.get? id = some s)
      (held : locks.get? id = some .waits ∨ locks.get? id = some .adjusts) (world : σ) :
      Moment limits (r.put (s.touch (h.now world))) locks stood
  | publishes {r : Registry} {locks : Table Hold} {stood : Table Stand}
      (reached : Moment limits r locks stood) {id : String} {s : Session}
      (found : r.sessions.get? id = some s) (held : locks.get? id = some .waits) :
      Moment limits (r.put s.publish) (locks.insert id (.applies ⟨s.debugger, s.lastActivity⟩))
        (stood.insert id ⟨s.debugger, s.lastActivity⟩)
  /-- What a command makes of the run is not asked here. -/
  | progresses {r : Registry} {locks : Table Hold} {stood : Table Stand}
      (reached : Moment limits r locks stood) {id : String} {s : Session}
      (found : r.sessions.get? id = some s) {began : Stand}
      (held : locks.get? id = some (.applies began)) (debugger : Debugger)
      (log : List CommandRecord) : Moment limits (r.put { s with debugger, log }) locks stood
  | adjusts {r : Registry} {locks : Table Hold} {stood : Table Stand}
      (reached : Moment limits r locks stood) {id : String} {s : Session}
      (found : r.sessions.get? id = some s) (held : locks.get? id = some .adjusts)
      (debugger : Debugger) : Moment limits (r.put { s with debugger }) locks stood
  | unlocks {r : Registry} {locks : Table Hold} {stood : Table Stand}
      (reached : Moment limits r locks stood) (id : String) :
      Moment limits r (locks.erase id) stood

def Standing (r : Registry) (stood : Table Stand) : Prop :=
  ∀ id s, r.sessions.get? id = some s → ∃ stand, stood.get? id = some stand ∧ s.Shows id stand

variable {h} {r : Registry} {stood : Table Stand} {locks : Table Hold}

theorem Standing.keyed (standing : r.Standing stood) : r.Keyed := by
  intro id s found
  obtain ⟨stand, -, shows⟩ := standing id s found
  exact shows.named

theorem Standing.put (standing : r.Standing stood) {id : String} {s : Session} {stand : Stand}
    (shows : s.Shows id stand) : (r.put s).Standing (stood.insert id stand) := by
  intro other t found
  rw [get?_put, shows.own] at found
  rw [Table.get?_insert]
  split at found
  · next same =>
    obtain rfl := Option.some.inj found
    subst same
    exact ⟨stand, if_pos rfl, shows⟩
  · next differ =>
    rw [if_neg differ]
    exact standing other t found

theorem Standing.change (standing : r.Standing stood) {id : String} {s t : Session}
    (found : r.sessions.get? id = some s) (same : ∀ stand, s.Shows id stand → t.Shows id stand) :
    (r.put t).Standing stood := by
  obtain ⟨stand, told, shows⟩ := standing id s found
  have put := standing.put (same stand shows)
  rwa [Table.insert_same told] at put

theorem Standing.filter (standing : r.Standing stood) (keep : String → Session → Bool) :
    Standing { r with sessions := r.sessions.filter keep } stood := by
  intro id s found
  rw [Table.get?_filter] at found
  exact standing id s (Option.filter_eq_some_iff.1 found).1

theorem stands_refused {c : Call} {refusal : Refusal} (refuses : Refuses r c refusal) (world : σ)
    (stood : Table Stand) : r.stands h c world stood = stood := by
  cases refuses with
  | unfit unfit => simp only [stands, unfit]
  | @absent c id named stays absent =>
    cases c with
    | execute other command =>
      obtain rfl := Option.some.inj named
      simp only [stands, absent]
    | start => exact nomatch named
    | _ => rfl

theorem Standing.handles {next : Registry} {c : Call} {world : σ} {response : Response}
    (standing : r.Standing stood) (handled : Handles h r world c response next) :
    next.Standing (r.stands h c world stood) := by
  cases handled with
  | refuses why =>
    rw [stands_refused why]
    exact standing
  | starts admitted =>
    simp only [stands, admitted]
    exact standing.put (Session.opened_shows _ _ _ _ _ _)
  | @operates _ id op s _ named asks found =>
    have own : s.id = id := (standing.keyed id s found).own
    cases c with
    | execute other command =>
      obtain rfl := Option.some.inj named
      obtain rfl := Option.some.inj asks
      simp only [stands, found]
      exact standing.put (Session.command_shows own command world)
    | setBreakpoint other stepId action =>
      obtain rfl := Option.some.inj named
      obtain rfl := Option.some.inj asks
      exact standing.change found fun _ shows => ⟨shows.own, shows.published⟩
    | setRiskLevel other level =>
      obtain rfl := Option.some.inj named
      obtain rfl := Option.some.inj asks
      exact standing.change found fun _ shows => ⟨shows.own, shows.published⟩
    | _ => exact nomatch asks
  | reads told =>
    cases told with
    | state | list | count => exact standing
  | stops id => exact standing.filter fun other _ => other != id
  | sweeps cutoff busy sweep =>
    have silent : r.stands h c world stood = stood := by
      rcases sweep with rfl | rfl
      · rfl
      · rfl
    rw [silent]
    exact standing.filter fun _ s => !isIdle cutoff busy s

theorem Call.Passes.stands {c : Call} {id : String} (passes : c.Passes id) (world : σ) :
    (r.stands h c world stood).get? id = stood.get? id := by
  obtain ⟨fresh, aside⟩ := passes
  unfold Registry.stands
  cases c with
  | start new program analysis options =>
    have differ : id ≠ new := fun same => fresh (congrArg some same.symm)
    dsimp only
    split
    · rw [Table.get?_insert, if_neg differ]
    · rfl
  | execute other command =>
    have differ : id ≠ other := fun same =>
      aside (Option.some_ne_none _) (congrArg some same.symm)
    dsimp only
    split
    · rw [Table.get?_insert, if_neg differ]
    · rfl
  | _ => rfl

structure Shown (r : Registry) (locks : Table Hold) (stood : Table Stand) : Prop where
  standing : r.Standing stood
  last : ∀ id began, locks.get? id = some (.applies began) → stood.get? id = some began

theorem Moment.shown {limits : SessionLimits} (reached : Moment h limits r locks stood) :
    Shown r locks stood := by
  induction reached with
  | empty =>
    refine ⟨fun id s found => ?_, fun id began held => ?_⟩
    · cases found
    · cases held
  | @call r locks stood _ c world passes ih =>
    have handled := call_cases h r c world
    refine ⟨ih.standing.handles handled, fun id began held => ?_⟩
    have locked : locks.contains id = true := by simp [Table.contains, held]
    rw [(passes id locked).stands]
    exact ih.last id began held
  | @registers r locks stood _ id fresh program options admitted analysis d started world ih =>
    refine ⟨ih.standing.put ⟨rfl, rfl⟩, fun other began held => ?_⟩
    have differ : other ≠ id := by
      rintro rfl
      simp [Table.contains, held] at fresh
    rw [Table.get?_insert, if_neg differ]
    exact ih.last other began held
  | @locks r locks stood _ id s found free hold early ih =>
    refine ⟨ih.standing, fun other began held => ih.last other began ?_⟩
    rw [Table.get?_insert] at held
    split at held
    · simp only [Option.some.injEq] at held
      simp [held] at early
    · exact held
  | touches _ found held world ih =>
    exact ⟨ih.standing.change found fun _ shows => shows.touch _, ih.last⟩
  | @publishes r locks stood _ id s found held ih =>
    have own : s.id = id := (ih.standing.keyed id s found).own
    refine ⟨ih.standing.put (Session.publish_shows own), fun other began held => ?_⟩
    rw [Table.get?_insert] at held ⊢
    split at held
    · next itself =>
      rw [if_pos itself]
      simpa using held
    · next differ =>
      rw [if_neg differ]
      exact ih.last other began held
  | progresses _ found held debugger log ih =>
    exact ⟨ih.standing.change found fun _ shows => shows.progress debugger log, ih.last⟩
  | @adjusts _ _ _ _ _ s found held debugger ih =>
    exact ⟨ih.standing.change found fun _ shows => shows.progress debugger s.log, ih.last⟩
  | unlocks _ gone ih =>
    refine ⟨ih.standing, fun id began held => ih.last id began ?_⟩
    rw [Table.get?_erase] at held
    split at held
    · cases held
    · exact held

theorem Keyed.list_line {r : Registry} (keyed : r.Keyed) {id : String} {s : Session}
    (found : r.sessions.get? id = some s) (busy : List String) :
    (r.list busy).filter (·.sessionId == id) = [s.listed (busy.contains id)] := by
  have ids : ((r.list busy).map (·.sessionId)).Nodup :=
    (keyed.list_ids busy).nodup_iff.2 r.sessions.keys_nodup
  have once : ((r.list busy).filter (·.sessionId == id)).Nodup := (ids.of_map _).filter _
  refine List.perm_singleton.1 ((List.perm_ext_iff_of_nodup once (by simp)).2 ?_)
  intro summary
  rw [List.mem_filter, beq_iff_eq, List.mem_singleton]
  constructor
  · rintro ⟨member, rfl⟩
    obtain ⟨t, there, shown⟩ := keyed.mem_list member
    rw [Option.some.inj (found.symm.trans there)]
    exact shown
  · rintro rfl
    refine ⟨(r.list_perm busy).mem_iff.2 ?_, (keyed id s found).listed _⟩
    exact List.mem_map.2 ⟨(id, s), Table.get?_iff_mem.1 found, rfl⟩

variable (h)

def standsAll : List (Call × σ) → Registry → Table Stand → Table Stand
  | [], _, stood => stood
  | (c, world) :: rest, r, stood =>
    standsAll rest (r.call h c world).1.2 (r.stands h c world stood)

theorem Moment.callAll {limits : SessionLimits} (reached : Moment h limits r ∅ stood)
    (calls : List (Call × σ)) :
    Moment h limits (callAll h calls r) ∅ (standsAll h calls r stood) := by
  induction calls generalizing r stood with
  | nil => exact reached
  | cons first rest ih =>
    obtain ⟨c, world⟩ := first
    exact ih (reached.call c world nofun)

end Registry

/-- What is published of a session, whatever has been called and whatever is locked: where it stood
before its last command that has published, or as it was registered, with the status, the cursor and
the count of steps it had there. So a listing tells of a session with a command that has published
where it stood as that command began, of any other locked session what was published last, and of
either that it is running; of a session that is not locked it tells how it is. -/
theorem published_before_command {σ : Type} {h : Host σ} {limits : SessionLimits} {r : Registry}
    {locks : Table Registry.Hold} {stood : Table Stand}
    (reached : Registry.Moment h limits r locks stood) {id : String} {s : Session}
    (found : r.sessions.get? id = some s) :
    (∃ stand, stood.get? id = some stand ∧
      s.published = stand.debugger.summary id s.createdAt stand.time) ∧
    (∀ began, locks.get? id = some (.applies began) →
      stood.get? id = some began ∧
      (r.list locks.keys).filter (·.sessionId == id) =
        [{ began.debugger.summary id s.createdAt began.time with status := .running }]) ∧
    (∀ hold, locks.get? id = some hold →
      (r.list locks.keys).filter (·.sessionId == id) =
        [{ s.published with status := .running }]) ∧
    (locks.get? id = none →
      (r.list locks.keys).filter (·.sessionId == id) = [s.summary]) := by
  obtain ⟨standing, last⟩ := reached.shown
  obtain ⟨stand, stands, shows⟩ := standing id s found
  have line := standing.keyed.list_line found locks.keys
  have busy : locks.keys.contains id = locks.contains id := by
    rw [Bool.eq_iff_iff, List.contains_iff_mem, Table.contains_iff_mem_keys]
  rw [busy] at line
  have locked : ∀ hold, locks.get? id = some hold →
      (r.list locks.keys).filter (·.sessionId == id) =
        [{ s.published with status := .running }] := by
    intro hold held
    rw [line, Table.contains, held]
    rfl
  refine ⟨⟨stand, stands, shows.published⟩, fun began held => ?_, locked, fun free => ?_⟩
  · have told := last id began held
    obtain rfl := Option.some.inj (stands.symm.trans told)
    rw [locked _ held, shows.published]
    exact ⟨told, rfl⟩
  · rw [line, Table.contains, free]
    rfl

/-- One session has run to its end as it was started; another has been stepped, has been given a
breakpoint and has had its risk level changed. -/
def Registry.relay : List (Registry.Call × Nat) :=
  [(.start "first" .greeting none { Options.standard with autoContinue := true }, 0),
    (.start "second" .greeting none .standard, 4),
    (.execute "second" .stepOver, 5),
    (.setBreakpoint "second" "keep" .set, 7),
    (.setRiskLevel "second" .low, 8),
    (.state "first", 9)]

theorem relay_published :
    let r := Registry.callAll .echoing Registry.relay (.empty ⟨2, 60, 5⟩)
    ∃ first second, r.sessions.get? "first" = some first ∧ r.sessions.get? "second" = some second ∧
      first.published.status = .initialized ∧ first.debugger.state.status = .completed ∧
      second.published.stepsExecuted = 0 ∧ second.debugger.state.stepsExecuted = 1 ∧
      let busy := r.put second.publish
      (busy.list ["second"]).filter (·.sessionId == "first") = [first.summary] ∧
      ((busy.list ["second"]).filter (·.sessionId == "second")).map
          (fun line => (line.status, line.current.map (·.stepId), line.stepsExecuted)) =
        [(.running, some "act", 1)] := by
  intro r
  have known : ((r.sessions.get? "first").map fun s =>
      (s.published.status, s.debugger.state.status)) = some (.initialized, .completed) := by
    decide +kernel
  have known' : ((r.sessions.get? "second").map fun s =>
      (s.published.stepsExecuted, s.debugger.state.stepsExecuted,
        s.debugger.state.current.map (·.stepId))) = some (0, 1, some "act") := by
    decide +kernel
  obtain ⟨first, there, firstly⟩ := Option.map_eq_some_iff.1 known
  obtain ⟨second, found, secondly⟩ := Option.map_eq_some_iff.1 known'
  simp only [Prod.mk.injEq] at firstly secondly
  obtain ⟨before, ended⟩ := firstly
  obtain ⟨unmoved, stepped, place⟩ := secondly
  have calm : Registry.Moment .echoing ⟨2, 60, 5⟩ r ∅ _ := .callAll .echoing .empty Registry.relay
  have own := (calm.shown.standing.keyed "second" second found).own
  have held := (calm.locks found rfl (.inl rfl)).publishes found rfl
  have aside : (r.put second.publish).sessions.get? "first" = some first := by
    rw [Registry.get?_put, if_neg (own ▸ by decide)]
    exact there
  have engaged : (r.put second.publish).sessions.get? "second" = some second.publish := by
    rw [Registry.get?_put]
    exact if_pos own.symm
  obtain ⟨-, -, -, free⟩ := published_before_command held aside
  obtain ⟨-, applies, -⟩ := published_before_command held engaged
  obtain ⟨-, line⟩ := applies _ rfl
  refine ⟨first, second, there, found, before, ended, unmoved, stepped, free rfl, ?_⟩
  rw [show ["second"] = (Table.insert (Table.insert ∅ "second" _) "second" _).keys from rfl, line]
  simp [Debugger.summary, stepped, place]

/-- Before it publishes, a command to the session that has been stepped is listed as though the
session had not been. -/
theorem waiting_listed_by_last_command :
    let r := Registry.callAll .echoing Registry.relay (.empty ⟨2, 60, 5⟩)
    ∃ stood s,
      Registry.Moment .echoing ⟨2, 60, 5⟩ r ((∅ : Table Registry.Hold).insert "second" .waits)
        stood ∧
      r.sessions.get? "second" = some s ∧
      (s.debugger.state.current.map (·.stepId), s.debugger.state.stepsExecuted) =
        (some "act", 1) ∧
      ((r.list ["second"]).filter (·.sessionId == "second")).map
          (fun line => (line.status, line.current.map (·.stepId), line.stepsExecuted)) =
        [(.running, some "say", 0)] := by
  intro r
  have known : ((r.sessions.get? "second").map fun s =>
      ((s.debugger.state.current.map (·.stepId), s.debugger.state.stepsExecuted),
        s.published.current.map (·.stepId), s.published.stepsExecuted)) =
          some ((some "act", 1), some "say", 0) := by
    decide +kernel
  obtain ⟨s, found, both⟩ := Option.map_eq_some_iff.1 known
  obtain ⟨stepped, published⟩ := Prod.mk.inj both
  obtain ⟨place, count⟩ := Prod.mk.inj published
  have calm : Registry.Moment .echoing ⟨2, 60, 5⟩ r ∅ _ := .callAll .echoing .empty Registry.relay
  have line := calm.shown.standing.keyed.list_line found ["second"]
  refine ⟨_, s, calm.locks found rfl (.inl rfl), found, stepped, ?_⟩
  rw [line]
  simp [Session.listed, place, count]

end Stepwise
