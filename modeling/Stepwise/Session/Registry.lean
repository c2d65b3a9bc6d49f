import Stepwise.Debugger.Basic
/-!
Live sessions, each a run under an operator's control. Requests name a session by its id. Of each
session a summary is published when it is registered and just before each command is applied to it;
while a command is in flight the published summary stands for the session in listings.
-/

namespace Stepwise

structure CommandRecord where
  command : String
  params : Option Json
  time : Timestamp
  success : Bool

structure Summary where
  sessionId : String
  programName : String
  status : Status
  current : Option Cursor
  stepsExecuted : Nat
  createdAt : Timestamp
  lastActivity : Timestamp
  intent : Option String
  overallRisk : Option RiskLevel
  deriving DecidableEq, Repr

structure Session where
  id : String
  debugger : Debugger
  createdAt : Timestamp
  lastActivity : Timestamp
  log : List CommandRecord
  published : Summary

def Debugger.summary (d : Debugger) (id : String) (createdAt lastActivity : Timestamp) : Summary :=
  ⟨id, d.program.name, d.state.status, d.state.current, d.state.stepsExecuted, createdAt,
    lastActivity, d.analysis.bind (·.intent),
    d.analysis.bind fun a => a.riskSummary.map (·.overall)⟩

namespace Session

def register (id : String) (d : Debugger) (now : Timestamp) : Session :=
  ⟨id, d, now, now, [], d.summary id now now⟩

def summary (s : Session) : Summary := s.debugger.summary s.id s.createdAt s.lastActivity

def touch (s : Session) (now : Timestamp) : Session := { s with lastActivity := now }

def publish (s : Session) : Session := { s with published := s.summary }

def apply (h : Host σ) (s : Session) (command : DebugCommand) (world : σ) :
    (Outcome × Session) × σ :=
  let s := (s.touch (h.now world)).publish
  let ((outcome, debugger), world) := s.debugger.execute h command world
  let record := ⟨command.name, command.params, h.now world, outcome.success⟩
  ((outcome, { s with debugger, log := s.log ++ [record] }), world)

/-- How a session shows in a listing, given whether a command is in flight. -/
def listed (s : Session) (busy : Bool) : Summary :=
  if busy then { s.published with status := .running } else s.summary

end Session

structure SessionLimits where
  maxSessions : Nat
  idleTimeoutSecs : Nat
  maxSteps : Nat
  deriving DecidableEq, Repr

structure Registry where
  limits : SessionLimits
  sessions : Table Session

inductive BreakpointAction where
  | set
  | remove
  deriving DecidableEq, Repr

namespace Registry

def empty (limits : SessionLimits) : Registry := ⟨limits, ∅⟩

def count (r : Registry) : Nat := r.sessions.size

def find (r : Registry) (id : String) : Except Refusal Session :=
  match r.sessions.get? id with
  | some s => .ok s
  | none => .error (.notFound id)

def put (r : Registry) (s : Session) : Registry :=
  { r with sessions := r.sessions.insert s.id s }

def checkStart (r : Registry) (program : Program) (options : Options) : Except Refusal Unit := do
  options.check
  let _ ← program.check
  if r.limits.maxSessions ≤ r.count then .error (.capacity r.limits.maxSessions) else .ok ()

/-- Registers a session under a new id, and lets it run if its options say so. -/
def start (h : Host σ) (r : Registry) (id : String) (program : Program)
    (analysis : Option Analysis) (options : Options) (world : σ) :
    Except Refusal (RunState × Registry) × σ :=
  match r.checkStart program options with
  | .error refusal => (.error refusal, world)
  | .ok () =>
    let debugger := Debugger.start program analysis options r.limits.maxSteps
    let s := Session.register id debugger (h.now world)
    if options.autoContinue then
      let ((_, s), world) := s.apply h .resume world
      (.ok (s.debugger.state, r.put s), world)
    else (.ok (s.debugger.state, r.put s), world)

def execute (h : Host σ) (r : Registry) (id : String) (command : DebugCommand) (world : σ) :
    Except Refusal (Outcome × Registry) × σ :=
  match r.find id with
  | .error refusal => (.error refusal, world)
  | .ok s =>
    let ((outcome, s), world) := s.apply h command world
    (.ok (outcome, r.put s), world)

/-- Sets or removes a breakpoint. The session counts as active even where the step is unknown. -/
def setBreakpoint (r : Registry) (id stepId : String) (action : BreakpointAction)
    (now : Timestamp) : Except Refusal Names × Registry :=
  match r.find id with
  | .error refusal => (.error refusal, r)
  | .ok s =>
    let s := s.touch now
    match s.debugger.setBreakpoint stepId (action == .set) with
    | .error refusal => (.error refusal, r.put s)
    | .ok debugger => (.ok debugger.state.breakpoints, r.put { s with debugger })

def setRiskLevel (r : Registry) (id : String) (level : RiskLevel) (now : Timestamp) :
    Except Refusal (RunState × Registry) :=
  (r.find id).map fun s =>
    let (_, debugger) := s.debugger.setRiskLevel level
    (debugger.state, r.put { s.touch now with debugger })

def state (r : Registry) (id : String) : Except Refusal RunState :=
  (r.find id).map (·.debugger.state)

def stop (r : Registry) (id : String) : Bool × Registry :=
  (r.sessions.contains id, { r with sessions := r.sessions.erase id })

def Summary.isBefore (a b : Summary) : Bool :=
  a.createdAt < b.createdAt || (a.createdAt == b.createdAt && decide (a.sessionId ≤ b.sessionId))

/-- All sessions, the oldest first; those in `busy` have a command in flight. -/
def list (r : Registry) (busy : List String) : List Summary :=
  (r.sessions.entries.map fun e => e.2.listed (busy.contains e.1)).mergeSort Summary.isBefore

def isIdle (cutoff : Timestamp) (busy : List String) (s : Session) : Bool :=
  !busy.contains s.id && decide (s.lastActivity < cutoff)

def sweepIdle (r : Registry) (cutoff : Timestamp) (busy : List String) : List String × Registry :=
  ((r.sessions.filter fun _ s => isIdle cutoff busy s).keys,
    { r with sessions := r.sessions.filter fun _ s => !isIdle cutoff busy s })

def expiry (r : Registry) (now : Timestamp) : Timestamp :=
  (now.minus? r.limits.idleTimeoutSecs).getD ⟨Timestamp.earliest, 0⟩

def sweepExpired (r : Registry) (now : Timestamp) (busy : List String) : List String × Registry :=
  r.sweepIdle (r.expiry now) busy

end Registry

end Stepwise
