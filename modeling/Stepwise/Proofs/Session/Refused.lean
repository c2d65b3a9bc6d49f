import Stepwise.Proofs.Program.WellFormed
import Stepwise.Proofs.Session.Call
/-!
Calls that are refused. All of them leave the sessions what they were, with one exception: to ask
for a breakpoint at a step that is not there counts as activity, although the request fails. A
session that is asked so stays a while longer when idle ones are swept.
-/

namespace Stepwise

theorem Session.touch_same {s : Session} {now : Timestamp} (same : s.lastActivity = now) :
    s.touch now = s := by
  subst same
  rfl

namespace Registry

variable {σ : Type} {h : Host σ}

/-- Whether a call asks no session for a breakpoint, unless at the very time of its last
activity. -/
def Quiet (h : Host σ) (r : Registry) (c : Call) (world : σ) : Prop :=
  ∀ id stepId action s, c = .setBreakpoint id stepId action → r.sessions.get? id = some s →
    s.lastActivity = h.now world

theorem put_same {r : Registry} {s : Session} (found : r.sessions.get? s.id = some s) :
    r.put s = r := by
  unfold put
  rw [Table.insert_same found]

theorem Refuses.quiet {r : Registry} {c : Call} {refusal : Refusal} (refuses : Refuses r c refusal)
    (world : σ) : Quiet h r c world := by
  rintro id stepId action s rfl found
  exact absurd rfl (refuses.elsewhere found)

inductive Remains (h : Host σ) (r : Registry) (c : Call) (world : σ) : Registry → Prop
  | still (quiet : Quiet h r c world) : Remains h r c world r
  | touched {id stepId : String} {action : BreakpointAction} {s : Session}
      (asked : c = .setBreakpoint id stepId action) (found : r.sessions.get? id = some s)
      (unknown : s.debugger.program.findStep? stepId = none) :
      Remains h r c world (r.put (s.touch (h.now world)))

theorem Handles.remains {r next : Registry} {c : Call} {world : σ} {refusal : Refusal}
    (handled : Handles h r world c (.refused refusal) next) : Remains h r c world next := by
  cases handled with
  | refuses why => exact .still (why.quiet world)
  | reads told => cases told
  | @operates _ id op s _ named asks found declines =>
    cases declines refusal rfl with
    | @unknownStep _ stepId action unknown =>
      obtain rfl := Option.some.inj named
      obtain rfl := Option.some.inj asks
      have kept : (s.operate h (.breakpoint stepId (action == .set)) world).1 =
          s.touch (h.now world) := by
        simp only [Session.operate, Debugger.operate, Debugger.setBreakpoint, unknown]
        rfl
      rw [kept]
      exact .touched rfl found unknown

theorem Remains.activity {r next : Registry} {c : Call} {world : σ}
    (remains : Remains h r c world next) (keyed : r.Keyed) (id : String) (time : Timestamp) :
    (next.sessions.get? id).map (·.touch time) = (r.sessions.get? id).map (·.touch time) := by
  cases remains with
  | still => rfl
  | @touched asked _ _ s _ found =>
    rw [get?_put]
    split
    · next same =>
      obtain rfl : id = asked := same.trans (keyed _ _ found).own
      rw [found]
      rfl
    · rfl

theorem Remains.eq_of_quiet {r next : Registry} {c : Call} {world : σ}
    (remains : Remains h r c world next) (keyed : r.Keyed) (quiet : Quiet h r c world) :
    next = r := by
  cases remains with
  | still => rfl
  | touched asked found unknown =>
    rw [Session.touch_same (quiet _ _ _ _ asked found)]
    exact put_same ((keyed _ _ found).own ▸ found)

theorem Remains.quiet_of_swept {r next : Registry} {c : Call} {world : σ}
    (remains : Remains h r c world next) (keyed : r.Keyed)
    (swept : ∀ cutoff busy, (next.sweepIdle cutoff busy).1 = (r.sweepIdle cutoff busy).1) :
    Quiet h r c world := by
  cases remains with
  | still quiet => exact quiet
  | @touched id stepId action s asked found unknown =>
    have here : (r.put (s.touch (h.now world))).sessions.get? id =
        some (s.touch (h.now world)) := by
      have own : id = (s.touch (h.now world)).id := (keyed _ _ found).own.symm
      rw [get?_put, if_pos own]
    have alike (cutoff : Timestamp) : h.now world < cutoff ↔ s.lastActivity < cutoff := by
      have touched : (s.touch (h.now world)).lastActivity = h.now world := rfl
      have member := congrArg (id ∈ ·) (swept cutoff [])
      simpa [mem_sweepIdle, here, found, isIdle, touched] using member
    rintro id' stepId' action' s' asked' found'
    obtain rfl := (Call.setBreakpoint.inj (asked.symm.trans asked')).1
    obtain rfl := Option.some.inj (found.symm.trans found')
    rcases Timestamp.lt_trichotomy s.lastActivity (h.now world) with less | same | more
    · exact absurd ((alike _).2 less) (Timestamp.lt_irrefl _)
    · exact same
    · exact absurd ((alike _).1 more) (Timestamp.lt_irrefl _)

end Registry

/-- What a refused call does: nothing that could be seen, except that to ask for a breakpoint at a
step that is not there counts as activity of the session, so that some sweep passes it by. -/
theorem refused_calls_leave_registry {σ : Type} (h : Host σ) (limits : SessionLimits)
    (calls : List (Registry.Call × σ)) (c : Registry.Call) (world : σ) {refusal : Refusal}
    (refused : ((Registry.callAll h calls (.empty limits)).call h c world).1.1 =
      .refused refusal) :
    let r := Registry.callAll h calls (.empty limits)
    let next := (r.call h c world).1.2
    (next = r ↔ r.Quiet h c world) ∧
    ((∀ cutoff busy, (next.sweepIdle cutoff busy).1 = (r.sweepIdle cutoff busy).1) ↔
      r.Quiet h c world) ∧
    next.limits = r.limits ∧
    ∀ id time,
      (next.sessions.get? id).map (·.touch time) = (r.sessions.get? id).map (·.touch time) := by
  intro r next
  have keyed : r.Keyed := Registry.keyed_callAll h calls limits
  have handled : Registry.Handles h r world c (.refused refusal) next :=
    refused ▸ Registry.call_cases h r c world
  have remains := handled.remains
  refine ⟨⟨?_, remains.eq_of_quiet keyed⟩, ⟨remains.quiet_of_swept keyed, ?_⟩, handled.limits,
    remains.activity keyed⟩
  · intro same
    exact remains.quiet_of_swept keyed fun _ _ => by rw [same]
  · intro quiet
    rw [remains.eq_of_quiet keyed quiet]
    exact fun _ _ => rfl

def Registry.lone : Registry :=
  callAll .echoing [(.start "only" .greeting none .standard, 0)] (.empty ⟨1, 60, 5⟩)

theorem lone_refuses_second :
    let answered := Registry.lone.call .echoing (.start "second" .greeting none .standard) 7
    answered.1.1.kind? = some .capacity ∧ answered.1.2 = Registry.lone ∧
      ∀ cutoff busy, (answered.1.2.sweepIdle cutoff busy).1 =
        (Registry.lone.sweepIdle cutoff busy).1 := by
  intro answered
  have full : answered.1.1.kind? = some .capacity := by decide +kernel
  obtain ⟨refusal, refused, -⟩ := Registry.Response.refused_of_kind full
  obtain ⟨same, swept, -⟩ := refused_calls_leave_registry .echoing ⟨1, 60, 5⟩
    [(.start "only" .greeting none .standard, 0)] (.start "second" .greeting none .standard) 7
    refused
  have quiet : Registry.lone.Quiet .echoing (.start "second" .greeting none .standard) 7 :=
    fun _ _ _ _ asked => nomatch asked
  exact ⟨full, same.2 quiet, swept.2 quiet⟩

/-- A request that fails for its step moves the activity of the session from the start to the fifth
tick, and a sweep in between no longer takes the session. -/
theorem failed_breakpoint_stirs :
    let answered := Registry.lone.call .echoing (.setBreakpoint "only" "nowhere" .set) 5
    answered.1.1.kind? = some .validation ∧
      (Registry.lone.sweepIdle ⟨3, 0⟩ []).1 = ["only"] ∧
      (answered.1.2.sweepIdle ⟨3, 0⟩ []).1 = [] ∧ answered.1.2 ≠ Registry.lone := by
  refine ⟨by decide +kernel, by decide +kernel, by decide +kernel, fun same => ?_⟩
  have swept := congrArg (fun r => (r.sweepIdle ⟨3, 0⟩ []).1.length) same
  exact absurd swept (by decide +kernel)

end Stepwise
