import Mathlib.Data.List.Induction
import Stepwise.Proofs.Debugger.Operation
import Stepwise.Proofs.Table
import Stepwise.Session.Registry
/-!
What callers can do with a registry of sessions: calls in any order, each made in a world of its
own, since time goes on between them. All that a call can do is said once, in `Handles`; a call that
is addressed to a session does one operation on it, and touches no other.
-/

namespace Stepwise

namespace Session

variable {σ : Type} (h : Host σ)

def operate (s : Session) (op : Operation) (world : σ) : Session × σ :=
  match op with
  | .command command => ((s.apply h command world).1.2, (s.apply h command world).2)
  | _ =>
    ({ s.touch (h.now world) with debugger := (s.debugger.operate h op world).1 }, world)

def opened (id : String) (program : Program) (analysis : Option Analysis) (options : Options)
    (maxSteps : Nat) (world : σ) : Session × σ :=
  let s := register id (.start program analysis options maxSteps) (h.now world)
  if options.autoContinue then s.operate h (.command .resume) world else (s, world)

variable {h}

theorem operate_id (s : Session) (op : Operation) (world : σ) :
    (s.operate h op world).1.id = s.id := by
  cases op with
  | command command => rfl
  | breakpoint stepId enabled => rfl
  | riskLevel level => rfl

/-- Whether a session goes by an id, also where it is published. -/
structure Named (s : Session) (id : String) : Prop where
  own : s.id = id
  published : s.published.sessionId = id

theorem Named.operate {s : Session} {id : String} (named : s.Named id) (op : Operation)
    (world : σ) : (s.operate h op world).1.Named id := by
  refine ⟨(operate_id s op world).trans named.own, ?_⟩
  cases op with
  | command command => exact named.own
  | breakpoint stepId enabled => exact named.published
  | riskLevel level => exact named.published

theorem opened_named (id : String) (program : Program) (analysis : Option Analysis)
    (options : Options) (maxSteps : Nat) (world : σ) :
    (opened h id program analysis options maxSteps world).1.Named id := by
  unfold opened
  dsimp only
  split
  · exact Named.operate ⟨rfl, rfl⟩ _ _
  · exact ⟨rfl, rfl⟩

theorem Named.listed {s : Session} {id : String} (named : s.Named id) (busy : Bool) :
    (s.listed busy).sessionId = id := by
  cases busy with
  | true => exact named.published
  | false => exact named.own

end Session

namespace Registry

inductive Call where
  | start (id : String) (program : Program) (analysis : Option Analysis) (options : Options)
  | execute (id : String) (command : DebugCommand)
  | setBreakpoint (id stepId : String) (action : BreakpointAction)
  | setRiskLevel (id : String) (level : RiskLevel)
  | state (id : String)
  | stop (id : String)
  /-- The sessions in `busy` have a command in flight. -/
  | list (busy : List String)
  | count
  | sweepIdle (cutoff : Timestamp) (busy : List String)
  | sweepExpired (busy : List String)

inductive Response where
  | refused (refusal : Refusal)
  | state (state : RunState)
  | outcome (outcome : Outcome)
  | breakpoints (marks : Names)
  | stopped (existed : Bool)
  | sessions (summaries : List Summary)
  | count (sessions : Nat)
  | swept (ids : List String)

namespace Call

def startId? : Call → Option String
  | start id .. => some id
  | _ => none

def session? : Call → Option String
  | execute id _ | setBreakpoint id .. | setRiskLevel id _ | state id | stop id => some id
  | _ => none

def operation? : Call → Option Operation
  | execute _ command => some (.command command)
  | setBreakpoint _ stepId action => some (.breakpoint stepId (action == .set))
  | setRiskLevel _ level => some (.riskLevel level)
  | _ => none

def unfound (id : String) : Call → Response
  | stop _ => .stopped false
  | _ => .refused (.notFound id)

end Call

def Response.kind? : Response → Option Refusal.Kind
  | refused refusal => some refusal.kind
  | _ => none

theorem Response.refused_of_kind {response : Response} {kind : Refusal.Kind}
    (refused : response.kind? = some kind) :
    ∃ refusal, response = .refused refusal ∧ refusal.kind = kind := by
  cases response with
  | refused refusal => exact ⟨refusal, rfl, Option.some.inj refused⟩
  | _ => exact nomatch refused

section

variable {σ : Type} (h : Host σ)

/-- Answers a call. A start or a command that is refused leaves no other registry behind. -/
def call (r : Registry) (call : Call) (world : σ) : (Response × Registry) × σ :=
  match call with
  | .start id program analysis options =>
    match r.start h id program analysis options world with
    | (.ok (state, r), world) => ((.state state, r), world)
    | (.error refusal, world) => ((.refused refusal, r), world)
  | .execute id command =>
    match r.execute h id command world with
    | (.ok (outcome, r), world) => ((.outcome outcome, r), world)
    | (.error refusal, world) => ((.refused refusal, r), world)
  | .setBreakpoint id stepId action =>
    match r.setBreakpoint id stepId action (h.now world) with
    | (.ok marks, r) => ((.breakpoints marks, r), world)
    | (.error refusal, r) => ((.refused refusal, r), world)
  | .setRiskLevel id level =>
    match r.setRiskLevel id level (h.now world) with
    | .ok (state, r) => ((.state state, r), world)
    | .error refusal => ((.refused refusal, r), world)
  | .state id =>
    match r.state id with
    | .ok state => ((.state state, r), world)
    | .error refusal => ((.refused refusal, r), world)
  | .stop id => ((.stopped (r.stop id).1, (r.stop id).2), world)
  | .list busy => ((.sessions (r.list busy), r), world)
  | .count => ((.count r.count, r), world)
  | .sweepIdle cutoff busy =>
    ((.swept (r.sweepIdle cutoff busy).1, (r.sweepIdle cutoff busy).2), world)
  | .sweepExpired busy =>
    ((.swept (r.sweepExpired (h.now world) busy).1, (r.sweepExpired (h.now world) busy).2), world)

def callAll : List (Call × σ) → Registry → Registry
  | [], r => r
  | (c, world) :: rest, r => callAll rest (r.call h c world).1.2

def trace : List (Call × σ) → Registry → List (Call × Response)
  | [], _ => []
  | (c, world) :: rest, r => (c, (r.call h c world).1.1) :: trace rest (r.call h c world).1.2

/-- Why a call is refused that changes nothing. -/
inductive Refuses (r : Registry) : Call → Refusal → Prop
  | unfit {id : String} {program : Program} {analysis : Option Analysis} {options : Options}
      {refusal : Refusal} (unfit : r.checkStart program options = .error refusal) :
      Refuses r (.start id program analysis options) refusal
  | absent {c : Call} {id : String} (named : c.session? = some id) (stays : ∀ id, c ≠ .stop id)
      (absent : r.sessions.get? id = none) : Refuses r c (.notFound id)

inductive Declines (s : Session) : Call → Refusal → Prop
  | unknownStep {id stepId : String} {action : BreakpointAction}
      (unknown : s.debugger.program.findStep? stepId = none) :
      Declines s (.setBreakpoint id stepId action) (.unknownStep stepId)

inductive Reads (r : Registry) : Call → Response → Prop
  | state {id : String} {s : Session} (found : r.sessions.get? id = some s) :
      Reads r (.state id) (.state s.debugger.state)
  | list (busy : List String) : Reads r (.list busy) (.sessions (r.list busy))
  | count : Reads r .count (.count r.count)

/-- All that a call can do. -/
inductive Handles (r : Registry) (world : σ) : Call → Response → Registry → Prop
  | refuses {c : Call} {refusal : Refusal} (why : Refuses r c refusal) :
      Handles r world c (.refused refusal) r
  | starts {id : String} {program : Program} {analysis : Option Analysis} {options : Options}
      (admitted : r.checkStart program options = .ok ()) :
      Handles r world (.start id program analysis options)
        (.state (Session.opened h id program analysis options r.limits.maxSteps
          world).1.debugger.state)
        (r.put (Session.opened h id program analysis options r.limits.maxSteps world).1)
  | operates {c : Call} {id : String} {op : Operation} {s : Session} {response : Response}
      (named : c.session? = some id) (asks : c.operation? = some op)
      (found : r.sessions.get? id = some s)
      (declines : ∀ refusal, response = .refused refusal → Declines s c refusal) :
      Handles r world c response (r.put (s.operate h op world).1)
  | reads {c : Call} {response : Response} (told : Reads r c response) :
      Handles r world c response r
  | stops (id : String) :
      Handles r world (.stop id) (.stopped (r.sessions.contains id))
        { r with sessions := r.sessions.erase id }
  | sweeps {c : Call} (cutoff : Timestamp) (busy : List String)
      (sweep : c = .sweepIdle cutoff busy ∨ c = .sweepExpired busy) :
      Handles r world c (.swept (r.sweepIdle cutoff busy).1) (r.sweepIdle cutoff busy).2

end

theorem find_ok {r : Registry} {id : String} {s : Session} (found : r.sessions.get? id = some s) :
    r.find id = .ok s := by
  rw [find, found]

theorem find_error {r : Registry} {id : String} (absent : r.sessions.get? id = none) :
    r.find id = .error (.notFound id) := by
  rw [find, absent]

theorem Refuses.elsewhere {r : Registry} {c : Call} {refusal : Refusal}
    (refuses : Refuses r c refusal) {id : String} {s : Session}
    (found : r.sessions.get? id = some s) : c.session? ≠ some id := by
  intro named
  cases refuses with
  | unfit => cases named
  | absent named' stays absent =>
    obtain rfl := Option.some.inj (named.symm.trans named')
    exact absurd (absent.symm.trans found) (by simp)

theorem setBreakpoint_error {d : Debugger} {stepId : String} {enabled : Bool} {refusal : Refusal}
    (refused : d.setBreakpoint stepId enabled = .error refusal) :
    refusal = .unknownStep stepId ∧ d.program.findStep? stepId = none := by
  unfold Debugger.setBreakpoint at refused
  split at refused
  · next unknown => exact ⟨(Except.error.inj refused).symm, unknown⟩
  · simp at refused

section

variable {σ : Type} (h : Host σ)

theorem start_admitted {r : Registry} {program : Program} {options : Options}
    (admitted : r.checkStart program options = .ok ()) (id : String) (analysis : Option Analysis)
    (world : σ) :
    let started := Session.opened h id program analysis options r.limits.maxSteps world
    r.start h id program analysis options world =
      (.ok (started.1.debugger.state, r.put started.1), started.2) := by
  unfold start Session.opened
  rw [admitted]
  dsimp only
  split
  · rfl
  · rfl

theorem setBreakpoint_found {r : Registry} {id : String} {s : Session}
    (found : r.sessions.get? id = some s) (stepId : String) (action : BreakpointAction)
    (world : σ) :
    r.setBreakpoint id stepId action (h.now world) =
      ((s.debugger.setBreakpoint stepId (action == .set)).map (·.state.breakpoints),
        r.put (s.operate h (.breakpoint stepId (action == .set)) world).1) := by
  have touched : (s.touch (h.now world)).debugger = s.debugger := rfl
  simp only [setBreakpoint, find_ok found, touched, Session.operate, Debugger.operate]
  cases s.debugger.setBreakpoint stepId (action == .set) with
  | error refusal => rfl
  | ok changed => rfl

theorem call_cases (r : Registry) (c : Call) (world : σ) :
    Handles h r world c (r.call h c world).1.1 (r.call h c world).1.2 := by
  cases c with
  | start id program analysis options =>
    cases admitted : r.checkStart program options with
    | error refusal =>
      simp only [call, start, admitted]
      exact .refuses (.unfit admitted)
    | ok _ =>
      simp only [call, start_admitted h admitted]
      exact .starts admitted
  | execute id command =>
    cases found : r.sessions.get? id with
    | none =>
      simp only [call, execute, find_error found]
      exact .refuses (.absent rfl (by simp) found)
    | some s =>
      have asks : (Call.execute id command).operation? = some (.command command) := rfl
      simp only [call, execute, find_ok found]
      exact .operates rfl asks found (by simp)
  | setBreakpoint id stepId action =>
    cases found : r.sessions.get? id with
    | none =>
      simp only [call, setBreakpoint, find_error found]
      exact .refuses (.absent rfl (by simp) found)
    | some s =>
      have asks : (Call.setBreakpoint id stepId action).operation? =
        some (.breakpoint stepId (action == .set)) := rfl
      simp only [call, setBreakpoint_found h found]
      cases set : s.debugger.setBreakpoint stepId (action == .set) with
      | error refusal =>
        obtain ⟨rfl, unknown⟩ := setBreakpoint_error set
        refine .operates rfl asks found fun refusal same => ?_
        obtain rfl := Response.refused.inj same
        exact .unknownStep unknown
      | ok changed => exact .operates rfl asks found (by simp [Except.map])
  | setRiskLevel id level =>
    cases found : r.sessions.get? id with
    | none =>
      simp only [call, setRiskLevel, find_error found]
      exact .refuses (.absent rfl (by simp) found)
    | some s =>
      have asks : (Call.setRiskLevel id level).operation? = some (.riskLevel level) := rfl
      simp only [call, setRiskLevel, find_ok found, Except.map]
      exact .operates rfl asks found (by simp)
  | state id =>
    cases found : r.sessions.get? id with
    | none =>
      simp only [call, state, find_error found]
      exact .refuses (.absent rfl (by simp) found)
    | some s =>
      simp only [call, state, find_ok found]
      exact .reads (.state found)
  | stop id => exact .stops id
  | list busy => exact .reads (.list busy)
  | count => exact .reads .count
  | sweepIdle cutoff busy => exact .sweeps cutoff busy (.inl rfl)
  | sweepExpired busy => exact .sweeps (r.expiry (h.now world)) busy (.inr rfl)

theorem callAll_snoc (calls : List (Call × σ)) (c : Call) (world : σ) (r : Registry) :
    callAll h (calls ++ [(c, world)]) r = ((callAll h calls r).call h c world).1.2 := by
  induction calls generalizing r with
  | nil => rfl
  | cons first rest ih => exact ih _

theorem trace_snoc (calls : List (Call × σ)) (c : Call) (world : σ) (r : Registry) :
    trace h (calls ++ [(c, world)]) r =
      trace h calls r ++ [(c, ((callAll h calls r).call h c world).1.1)] := by
  induction calls generalizing r with
  | nil => rfl
  | cons first rest ih => exact congrArg (List.cons _) (ih _)

theorem get?_put (r : Registry) (s : Session) (id : String) :
    (r.put s).sessions.get? id = if id = s.id then some s else r.sessions.get? id :=
  Table.get?_insert _ _ _ _

theorem mem_sweepIdle {r : Registry} {cutoff : Timestamp} {busy : List String} {id : String} :
    id ∈ (r.sweepIdle cutoff busy).1 ↔
      ∃ s, r.sessions.get? id = some s ∧ isIdle cutoff busy s = true := by
  rw [sweepIdle, ← Table.contains_iff_mem_keys, Table.contains, Table.get?_filter,
    Option.isSome_iff_exists]
  exact exists_congr fun s => Option.filter_eq_some_iff

def Keyed (r : Registry) : Prop := ∀ id s, r.sessions.get? id = some s → s.Named id

theorem keyed_empty (limits : SessionLimits) : (empty limits).Keyed :=
  fun _ _ found => nomatch found

theorem Keyed.put {r : Registry} (keyed : r.Keyed) {s : Session} {id : String}
    (named : s.Named id) : (r.put s).Keyed := by
  intro other t found
  rw [get?_put] at found
  split at found
  · next same =>
    obtain rfl := Option.some.inj found
    exact same ▸ named.own ▸ named
  · exact keyed other t found

theorem Keyed.filter {r : Registry} (keyed : r.Keyed) (keep : String → Session → Bool) :
    Keyed { r with sessions := r.sessions.filter keep } := by
  intro id s found
  rw [Table.get?_filter] at found
  exact keyed id s (Option.filter_eq_some_iff.1 found).1

variable {h}

theorem Keyed.handles {r next : Registry} {world : σ} {c : Call} {response : Response}
    (keyed : r.Keyed) (handled : Handles h r world c response next) : next.Keyed := by
  cases handled with
  | refuses => exact keyed
  | starts => exact keyed.put (Session.opened_named _ _ _ _ _ _)
  | operates named asks found => exact keyed.put ((keyed _ _ found).operate _ _)
  | reads => exact keyed
  | stops id => exact keyed.filter fun other _ => other != id
  | sweeps cutoff busy => exact keyed.filter fun _ s => !isIdle cutoff busy s

theorem Handles.limits {r next : Registry} {world : σ} {c : Call} {response : Response}
    (handled : Handles h r world c response next) : next.limits = r.limits := by
  cases handled with
  | refuses | starts | operates | reads | stops | sweeps => rfl

theorem Reads.aside {r : Registry} {c : Call} {response : Response} (told : Reads r c response) :
    c.operation? = none := by
  cases told with
  | state | list | count => rfl

variable (h)

/-- Whence the session has come that a call leaves under an id. -/
inductive Whence (r : Registry) (c : Call) (world : σ) (id : String) : Session → Prop
  | stays {s : Session} (found : r.sessions.get? id = some s)
      (aside : c.session? = some id → c.operation? = none) : Whence r c world id s
  | started {program : Program} {analysis : Option Analysis} {options : Options}
      (start : c = .start id program analysis options)
      (admitted : r.checkStart program options = .ok ()) :
      Whence r c world id
        (Session.opened h id program analysis options r.limits.maxSteps world).1
  | operated {s : Session} {op : Operation} (named : c.session? = some id)
      (asks : c.operation? = some op) (found : r.sessions.get? id = some s) :
      Whence r c world id (s.operate h op world).1

variable {h}

theorem Handles.whence {r next : Registry} {world : σ} {c : Call} {response : Response}
    (handled : Handles h r world c response next) (keyed : r.Keyed) {id : String} {s : Session}
    (found : next.sessions.get? id = some s) : Whence h r c world id s := by
  cases handled with
  | refuses why => exact .stays found fun named => absurd named (why.elsewhere found)
  | reads told => exact .stays found fun _ => told.aside
  | @starts new program analysis options admitted =>
    rw [get?_put, (Session.opened_named new program analysis options _ world).own] at found
    split at found
    · next itself =>
      subst itself
      obtain rfl := Option.some.inj found
      exact .started rfl admitted
    · exact .stays found nofun
  | @operates _ other op t _ named asks there =>
    rw [get?_put, Session.operate_id, (keyed _ _ there).own] at found
    split at found
    · next itself =>
      subst itself
      obtain rfl := Option.some.inj found
      exact .operated named asks there
    · next differ =>
      exact .stays found fun itself => absurd (Option.some.inj (itself.symm.trans named)) differ
  | stops gone =>
    have left : (Table.filter r.sessions fun key _ => key != gone).get? id = some s := found
    rw [Table.get?_filter] at left
    exact .stays (Option.filter_eq_some_iff.1 left).1 fun _ => rfl
  | sweeps cutoff busy sweep =>
    rw [sweepIdle, Table.get?_filter] at found
    refine .stays (Option.filter_eq_some_iff.1 found).1 fun _ => ?_
    rcases sweep with rfl | rfl
    · rfl
    · rfl

variable (h)

theorem keyed_callAll (calls : List (Call × σ)) (limits : SessionLimits) :
    (callAll h calls (empty limits)).Keyed := by
  induction calls using List.reverseRecOn with
  | nil => exact keyed_empty limits
  | append_singleton calls last ih =>
    rw [callAll_snoc]
    exact ih.handles (call_cases h _ _ _)

theorem limits_callAll (calls : List (Call × σ)) (limits : SessionLimits) :
    (callAll h calls (empty limits)).limits = limits := by
  induction calls using List.reverseRecOn with
  | nil => rfl
  | append_singleton calls last ih =>
    rw [callAll_snoc]
    exact (call_cases h _ _ _).limits.trans ih

end

end Registry

end Stepwise
