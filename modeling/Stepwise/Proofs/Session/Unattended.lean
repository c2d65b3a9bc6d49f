import Stepwise.Proofs.Debugger.Recast
import Stepwise.Proofs.Session.Isolation
/-!
Sessions that run on by themselves. To start a session so that it runs on at once is to start it and
then to tell it to go on: either is refused where the other is, and both leave the same run, the
same record of one command, the same published summary and as many sessions, but for the times and
for the wish to run on itself.
-/

namespace Stepwise

def Summary.untimed (s : Summary) : Summary :=
  { s with createdAt := .origin, lastActivity := .origin }

namespace Session

variable {σ : Type} {h : Host σ} {answer : Request → Reply}

def untimed (s : Session) : Session where
  id := s.id
  debugger := s.debugger.untimed
  createdAt := .origin
  lastActivity := .origin
  log := s.log.map CommandRecord.untimed
  published := s.published.untimed

/-- A session as if nobody had wished that it run on by itself. -/
def attended (s : Session) : Session :=
  { s with debugger := s.debugger.recast (fun a => a) fun _ => false }

theorem apply_untimed (answers : h.Answers answer) (s : Session) (command : DebugCommand)
    (world : σ) :
    ((s.apply h command world).1.1.untimed, (s.apply h command world).1.2.untimed) =
      (s.untimed.apply (.ofAnswers answer) command ()).1 := by
  have same := Debugger.execute_untimed answers s.debugger command world
  rcases done : s.debugger.execute h command world with ⟨⟨outcome, debugger⟩, after⟩
  rcases done' : s.debugger.untimed.execute (.ofAnswers answer) command () with
    ⟨⟨outcome', debugger'⟩, _⟩
  rw [done, done'] at same
  obtain ⟨rfl, rfl⟩ := Prod.mk.inj same
  simp only [apply, touch, publish, untimed, done, done', List.map_append]
  rfl

theorem apply_attended (s : Session) (command : DebugCommand) (world : σ) :
    s.attended.apply h command world =
      (((s.apply h command world).1.1, (s.apply h command world).1.2.attended),
        (s.apply h command world).2) := by
  have done := Debugger.execute_recast h (fun a => a) (fun _ => false) s.debugger command world
  simp only [apply, attended, touch, publish, done]
  rfl

/-- A session that ran on by itself and one that was told to go on, with what the start returned of
the first and what the command reported of the second. -/
structure RanAlike (state : RunState) (outcome : Outcome) (s t : Session) : Prop where
  returned : s.debugger.state = state
  reported : t.debugger.state = outcome.state
  state : state.untimed = outcome.state.untimed
  log : s.log.map CommandRecord.untimed = [⟨"continue", none, .origin, outcome.success⟩]
  logged : t.log.map CommandRecord.untimed = [⟨"continue", none, .origin, outcome.success⟩]
  published : s.published.untimed = t.published.untimed
  rest : s.untimed.attended = t.untimed

theorem apply_alike (answers : h.Answers answer) {s t : Session}
    (alike : s.untimed.attended = t.untimed) (command : DebugCommand) (world world' : σ) :
    (s.apply h command world).1.1.untimed = (t.apply h command world').1.1.untimed ∧
      (s.apply h command world).1.2.untimed.attended = (t.apply h command world').1.2.untimed := by
  have ran := apply_untimed answers s command world
  have told := apply_untimed answers t command world'
  rw [← alike, apply_attended] at told
  obtain ⟨outcome, session⟩ := Prod.mk.inj ran
  obtain ⟨outcome', session'⟩ := Prod.mk.inj told
  exact ⟨outcome.trans outcome'.symm, (congrArg attended session).trans session'.symm⟩

theorem register_ranAlike (answers : h.Answers answer) (id : String) (program : Program)
    (analysis : Option Analysis) (options : Options) (maxSteps : Nat) (first second third : σ) :
    let d (on : Bool) :=
      Debugger.start program analysis { options with autoContinue := on } maxSteps
    let ran := (register id (d true) (h.now first)).apply h .resume first
    let told := (register id (d false) (h.now second)).apply h .resume third
    RanAlike ran.1.2.debugger.state told.1.1 ran.1.2 told.1.2 := by
  intro d ran told
  have alike : (register id (d true) (h.now first)).untimed.attended =
      (register id (d false) (h.now second)).untimed := rfl
  obtain ⟨outcome, session⟩ := apply_alike answers alike .resume first third
  have reported := congrArg (·.success) outcome
  have success : ran.1.1.success = told.1.1.success := reported
  have state := congrArg (·.debugger.state) session
  have published := congrArg (·.published) session
  have logged : told.1.2.log.map CommandRecord.untimed =
      [⟨"continue", none, .origin, told.1.1.success⟩] := rfl
  have log : ran.1.2.log.map CommandRecord.untimed =
      [⟨"continue", none, .origin, told.1.1.success⟩] := by
    rw [← success]
    rfl
  have same : told.1.2.debugger.state = told.1.1.state :=
    (Debugger.execute_state h (d false) .resume third).symm
  exact ⟨rfl, same, same ▸ state, log, logged, published, session⟩

end Session

namespace Registry

theorem put_put (r : Registry) {s t : Session} (same : s.id = t.id) :
    (r.put s).put t = r.put t := by
  have sessions : (r.sessions.insert s.id s).insert t.id t = r.sessions.insert t.id t := by
    apply Table.ext_get?
    intro other
    simp only [Table.get?_insert, same]
    split
    · rfl
    · rfl
  simp only [put, sessions]

theorem count_put (r : Registry) (s : Session) :
    (r.put s).count = if r.sessions.contains s.id then r.count else r.count + 1 :=
  Table.size_insert r.sessions s.id s

theorem get?_put_self (r : Registry) (s : Session) : (r.put s).sessions.get? s.id = some s := by
  rw [get?_put, if_pos rfl]

theorem get?_put_other {r : Registry} {s : Session} {other : String} (differ : other ≠ s.id) :
    (r.put s).sessions.get? other = r.sessions.get? other := by
  rw [get?_put, if_neg differ]

end Registry

/-- What comes of a program that is started to run on at once, and of the same program started and
then told to go on, from any registry: the same refusal, or else sessions that ran alike, among
sessions that nobody touched. -/
theorem runs_on_as_told {σ : Type} {h : Host σ} {answer : Request → Reply}
    (answers : h.Answers answer) (r : Registry) (id : String) (program : Program)
    (analysis : Option Analysis) (options : Options) (first second third : σ) :
    let start (on : Bool) (world : σ) :=
      (r.start h id program analysis { options with autoContinue := on } world).1
    (∃ refusal, start true first = .error refusal ∧ start false second = .error refusal) ∨
      ∃ state ran state' opened outcome told s t,
        start true first = .ok (state, ran) ∧ start false second = .ok (state', opened) ∧
        (opened.execute h id .resume third).1 = .ok (outcome, told) ∧
        ran.sessions.get? id = some s ∧ told.sessions.get? id = some t ∧
        Session.RanAlike state outcome s t ∧ ran.count = told.count ∧
        ∀ other, other ≠ id → ran.sessions.get? other = r.sessions.get? other ∧
          told.sessions.get? other = r.sessions.get? other := by
  intro start
  have check (on : Bool) : r.checkStart program { options with autoContinue := on } =
      r.checkStart program options := rfl
  cases admitted : r.checkStart program options with
  | error refusal =>
    refine .inl ⟨refusal, ?_, ?_⟩
    · simp only [start, Registry.start, check, admitted]
    · simp only [start, Registry.start, check, admitted]
  | ok _ =>
    let d (on : Bool) :=
      Debugger.start program analysis { options with autoContinue := on } r.limits.maxSteps
    let ran := (Session.register id (d true) (h.now first)).apply h .resume first
    let opened := Session.register id (d false) (h.now second)
    let told := opened.apply h .resume third
    have found : (r.put opened).sessions.get? id = some opened := r.get?_put_self opened
    refine .inr ⟨ran.1.2.debugger.state, r.put ran.1.2, opened.debugger.state, r.put opened,
      told.1.1, r.put told.1.2, ran.1.2, told.1.2, ?_, ?_, ?_, ?_, ?_, ?_, ?_, ?_⟩
    · simp only [start, Registry.start, check, admitted]
      rfl
    · simp only [start, Registry.start, check, admitted]
      rfl
    · simp only [Registry.execute, Registry.find_ok found]
      rw [← r.put_put (s := opened) (t := told.1.2) rfl]
    · exact r.get?_put_self ran.1.2
    · exact r.get?_put_self told.1.2
    · exact Session.register_ranAlike answers id program analysis options _ first second third
    · rw [Registry.count_put, Registry.count_put]
      rfl
    · intro other differ
      exact ⟨Registry.get?_put_other differ, Registry.get?_put_other differ⟩

theorem greeting_runs_on :
    let r := Registry.callAll .echoing [(.start "other" .greeting none .standard, 0)]
      (.empty ⟨2, 60, 5⟩)
    let options (on : Bool) := { Options.standard with riskLevel := .low, autoContinue := on }
    Host.echoing.Answers echo ∧
      ∃ state ran state' opened outcome told s t,
        (r.start .echoing "greeting" .greeting none (options true) 3).1 = .ok (state, ran) ∧
        (r.start .echoing "greeting" .greeting none (options false) 4).1 = .ok (state', opened) ∧
        (opened.execute .echoing "greeting" .resume 9).1 = .ok (outcome, told) ∧
        ran.sessions.get? "greeting" = some s ∧ told.sessions.get? "greeting" = some t ∧
        Session.RanAlike state outcome s t ∧ state.failure.map (·.kind) = some .riskBlocked := by
  intro r options
  have answers : Host.echoing.Answers echo := fun _ _ => rfl
  have stopped : ((r.start .echoing "greeting" .greeting none (options true) 3).1.toOption.bind
      fun started => started.1.failure.map (·.kind)) = some .riskBlocked := by decide +kernel
  refine ⟨answers, ?_⟩
  rcases runs_on_as_told answers r "greeting" .greeting none (options false) 3 4 9 with
    ⟨refusal, refused, -⟩ | ⟨state, ran, state', opened, outcome, told, s, t, started, opens, goes,
      found, found', alike, -⟩
  · have refused : (r.start .echoing "greeting" .greeting none (options true) 3).1 =
        .error refusal := refused
    rw [refused] at stopped
    exact nomatch stopped
  · have started : (r.start .echoing "greeting" .greeting none (options true) 3).1 =
        .ok (state, ran) := started
    rw [started] at stopped
    exact ⟨state, ran, state', opened, outcome, told, s, t, started, opens, goes, found, found',
      alike, stopped⟩

end Stepwise
