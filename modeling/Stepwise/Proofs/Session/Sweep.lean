import Stepwise.Proofs.Program.WellFormed
import Stepwise.Proofs.Session.Call
import Stepwise.Proofs.Time.Text
/-!
Idle sessions. A sweep goes through the sessions one by one, in whatever order they come, and stops
each that is idle; what it does as a whole does not hang on the order. A session is idle from its
last operation on, whether that was a command, a breakpoint or a risk level; to look at it does not
count. A timeout which goes back further than the calendar lets every session stay.
-/

namespace Stepwise

namespace Timestamp

def longestSpan : Nat := 9223372036854775

def span? (seconds : Nat) : Option Int :=
  if seconds ≤ longestSpan then some seconds else none

def back? (t : Timestamp) (span : Int) : Option Timestamp :=
  if earliest ≤ t.seconds - span ∧ t.seconds - span ≤ latest then some ⟨t.seconds - span, t.nanos⟩
  else none

theorem InCalendar.not_lt_earliest {t : Timestamp} (within : t.InCalendar) :
    ¬t < ⟨earliest, 0⟩ := by
  have low := within.earliest_le
  rw [lt_iff]
  dsimp only
  omega

theorem earliest_eq : earliest = -8334601228800 := by decide

theorem latest_eq : latest = 8210266876799 := by decide

theorem InCalendar.minus?_eq {t : Timestamp} (within : t.InCalendar) (seconds : Nat) :
    t.minus? seconds = (span? seconds).bind t.back? := by
  have high := within.le_latest
  have short : latest - earliest < longestSpan := by decide
  unfold minus? span?
  split
  · next long =>
    have spanned : seconds ≤ longestSpan := by omega
    rw [if_pos spanned, Option.bind_some, back?, if_pos ⟨long, by omega⟩]
  · next beyond =>
    split
    · rw [Option.bind_some, back?, if_neg fun both => beyond both.1]
    · rfl

theorem InCalendar.back_bounded {t : Timestamp} (within : t.InCalendar) {seconds : Nat} {span : Int}
    (spanned : span? seconds = some span) :
    Int64.minValue.toInt ≤ t.seconds - span ∧ t.seconds - span ≤ Int64.maxValue.toInt := by
  have low := within.earliest_le
  have high := within.le_latest
  have least : Int64.minValue.toInt = -9223372036854775808 := by decide
  have greatest : Int64.maxValue.toInt = 9223372036854775807 := by decide
  rw [earliest_eq] at low
  rw [latest_eq] at high
  unfold span? longestSpan at spanned
  split at spanned
  · obtain rfl := Option.some.inj spanned
    omega
  · exact nomatch spanned

end Timestamp

namespace Session

variable {σ : Type} {h : Host σ}

theorem operate_lastActivity (s : Session) (op : Operation) (world : σ) :
    (s.operate h op world).1.lastActivity = h.now world := by
  cases op with
  | command command => rfl
  | breakpoint stepId enabled => rfl
  | riskLevel level => rfl

theorem opened_lastActivity (id : String) (program : Program) (analysis : Option Analysis)
    (options : Options) (maxSteps : Nat) (world : σ) :
    (opened h id program analysis options maxSteps world).1.lastActivity = h.now world := by
  unfold opened
  dsimp only
  split
  · exact operate_lastActivity _ _ _
  · rfl

end Session

namespace Registry

theorem eq_of_get? {r next : Registry} (limits : next.limits = r.limits)
    (same : ∀ id, next.sessions.get? id = r.sessions.get? id) : next = r := by
  have sessions := Table.ext_get? same
  cases r
  cases next
  cases limits
  cases sessions
  rfl

def Sweeps (cutoff : Timestamp) (busy : List String) (id : String) (s : Session) : Prop :=
  id ∉ busy ∧ s.lastActivity < cutoff

instance (cutoff : Timestamp) (busy : List String) (id : String) (s : Session) :
    Decidable (Sweeps cutoff busy id s) :=
  inferInstanceAs (Decidable (id ∉ busy ∧ s.lastActivity < cutoff))

/-- Goes through sessions, stops those that are idle and have no command in flight, and names
them. -/
def sweepThrough (cutoff : Timestamp) (busy : List String) :
    List (String × Session) → Registry → List String × Registry
  | [], r => ([], r)
  | (id, s) :: rest, r =>
    if Sweeps cutoff busy id s then
      let (ids, r) := sweepThrough cutoff busy rest (r.stop id).2
      (id :: ids, r)
    else sweepThrough cutoff busy rest r

variable {r : Registry} {cutoff : Timestamp} {busy : List String}

theorem sweepThrough_ids (order : List (String × Session)) :
    (sweepThrough cutoff busy order r).1 =
      (order.filter fun e => decide (Sweeps cutoff busy e.1 e.2)).map (·.1) := by
  induction order generalizing r with
  | nil => rfl
  | cons entry rest ih =>
    obtain ⟨id, s⟩ := entry
    rw [sweepThrough, List.filter_cons]
    by_cases idle : Sweeps cutoff busy id s
    · simp [idle, ih]
    · simp [idle, ih]

theorem sweepThrough_get? (order : List (String × Session)) (id : String) :
    (sweepThrough cutoff busy order r).2.sessions.get? id =
      if id ∈ (sweepThrough cutoff busy order r).1 then none else r.sessions.get? id := by
  induction order generalizing r with
  | nil => simp [sweepThrough]
  | cons entry rest ih =>
    obtain ⟨other, s⟩ := entry
    rw [sweepThrough]
    split
    · dsimp only
      rw [ih, stop, Table.get?_erase]
      by_cases same : id = other
      · simp [same]
      · simp [same]
    · exact ih

theorem sweepThrough_limits (order : List (String × Session)) :
    (sweepThrough cutoff busy order r).2.limits = r.limits := by
  induction order generalizing r with
  | nil => rfl
  | cons entry rest ih =>
    rw [sweepThrough]
    split
    · exact ih
    · exact ih

theorem Keyed.isIdle_iff (keyed : r.Keyed) {id : String} {s : Session}
    (found : r.sessions.get? id = some s) :
    isIdle cutoff busy s = true ↔ Sweeps cutoff busy id s := by
  simp [isIdle, Sweeps, (keyed id s found).own]

theorem Keyed.mem_sweepIdle (keyed : r.Keyed) {id : String} :
    id ∈ (r.sweepIdle cutoff busy).1 ↔
      ∃ s, r.sessions.get? id = some s ∧ Sweeps cutoff busy id s := by
  rw [Registry.mem_sweepIdle]
  exact exists_congr fun s => and_congr_right fun found => keyed.isIdle_iff found

theorem sweepIdle_get? (id : String) :
    (r.sweepIdle cutoff busy).2.sessions.get? id =
      if id ∈ (r.sweepIdle cutoff busy).1 then none else r.sessions.get? id := by
  have named : id ∈ (r.sweepIdle cutoff busy).1 ↔ _ := Registry.mem_sweepIdle
  rw [sweepIdle, Table.get?_filter]
  cases found : r.sessions.get? id with
  | none => simp
  | some s =>
    simp only [found, Option.some.injEq, exists_eq_left'] at named
    rw [sweepIdle] at named
    by_cases idle : isIdle cutoff busy s = true
    · rw [if_pos (named.2 idle)]
      simp [idle]
    · rw [if_neg (mt named.1 idle)]
      simp [idle]

theorem Keyed.sweepThrough_eq (keyed : r.Keyed) {order : List (String × Session)}
    (all : order.Perm r.sessions.entries) :
    (sweepThrough cutoff busy order r).1.Perm (r.sweepIdle cutoff busy).1 ∧
      (sweepThrough cutoff busy order r).2 = (r.sweepIdle cutoff busy).2 := by
  have names (id : String) : id ∈ (sweepThrough cutoff busy order r).1 ↔
      id ∈ (r.sweepIdle cutoff busy).1 := by
    rw [keyed.mem_sweepIdle, sweepThrough_ids]
    simp [Table.get?_iff_mem, all.mem_iff]
  have distinct : (sweepThrough cutoff busy order r).1.Nodup := by
    rw [sweepThrough_ids]
    exact ((all.map Prod.fst).nodup_iff.2 r.sessions.keys_nodup).sublist (List.filter_sublist.map _)
  have distinct' : (r.sweepIdle cutoff busy).1.Nodup := Table.keys_nodup _
  refine ⟨(List.perm_ext_iff_of_nodup distinct distinct').2 names, ?_⟩
  refine eq_of_get? (sweepThrough_limits order) fun id => ?_
  rw [sweepThrough_get?, sweepIdle_get?]
  simp only [names]

theorem sweepIdle_nothing (nothing : ∀ id, id ∉ (r.sweepIdle cutoff busy).1) :
    r.sweepIdle cutoff busy = ([], r) := by
  refine Prod.ext (List.eq_nil_iff_forall_not_mem.2 nothing) (eq_of_get? rfl fun id => ?_)
  rw [sweepIdle_get?, if_neg (nothing id)]

theorem Keyed.sweepIdle_again (keyed : r.Keyed) :
    (r.sweepIdle cutoff busy).2.sweepIdle cutoff busy = ([], (r.sweepIdle cutoff busy).2) := by
  have keyed' : (r.sweepIdle cutoff busy).2.Keyed := keyed.filter fun _ s => !isIdle cutoff busy s
  apply sweepIdle_nothing
  intro id again
  -- What is left and idle would have been named the first time.
  obtain ⟨s, left, idle⟩ := keyed'.mem_sweepIdle.1 again
  rw [sweepIdle_get?] at left
  split at left
  · exact nomatch left
  · next kept => exact kept (keyed.mem_sweepIdle.2 ⟨s, left, idle⟩)

structure Swept (r : Registry) (cutoff : Timestamp) (busy : List String) (ids : List String)
    (next : Registry) : Prop where
  once : ids.Nodup
  named : ∀ id, id ∈ ids ↔
    ∃ s, r.sessions.get? id = some s ∧ id ∉ busy ∧ s.lastActivity < cutoff
  left : ∀ id, next.sessions.get? id = if id ∈ ids then none else r.sessions.get? id
  limits : next.limits = r.limits
  again : next.sweepIdle cutoff busy = ([], next)
  /-- One by one, in any order, they are the same. -/
  walked : ∀ order, order.Perm r.sessions.entries →
    (sweepThrough cutoff busy order r).1.Perm ids ∧ (sweepThrough cutoff busy order r).2 = next

theorem Keyed.swept (keyed : r.Keyed) (cutoff : Timestamp) (busy : List String) :
    Swept r cutoff busy (r.sweepIdle cutoff busy).1 (r.sweepIdle cutoff busy).2 where
  once := Table.keys_nodup _
  named _ := keyed.mem_sweepIdle
  left := sweepIdle_get?
  limits := rfl
  again := keyed.sweepIdle_again
  walked _ := keyed.sweepThrough_eq

variable {σ : Type} {h : Host σ}

structure Stirs (h : Host σ) (r : Registry) (c : Call) (world : σ) (response : Response)
    (next : Registry) : Prop where
  moved : ∀ id op, c.session? = some id → c.operation? = some op →
    (∀ refusal, response ≠ .refused refusal) →
    ∃ s, next.sessions.get? id = some s ∧ s.lastActivity = h.now world
  still : ∀ id s, next.sessions.get? id = some s → c.startId? ≠ some id →
    (c.session? = some id → c.operation? = none) → r.sessions.get? id = some s
  read : (∀ id, c = .state id → next = r) ∧ (∀ busy, c = .list busy → next = r) ∧
    (c = .count → next = r)

theorem Handles.moved {next : Registry} {c : Call} {world : σ} {response : Response}
    (handled : Handles h r world c response next) (keyed : r.Keyed) {id : String} {op : Operation}
    (named : c.session? = some id) (asks : c.operation? = some op)
    (accepted : ∀ refusal, response ≠ .refused refusal) :
    ∃ s, next.sessions.get? id = some s ∧ s.lastActivity = h.now world := by
  cases handled with
  | refuses why => exact absurd rfl (accepted _)
  | starts => exact nomatch named
  | @operates _ other op' s _ named' asks' found =>
    obtain rfl := Option.some.inj (named.symm.trans named')
    refine ⟨_, ?_, s.operate_lastActivity op' world⟩
    rw [get?_put, Session.operate_id, if_pos (keyed _ _ found).own.symm]
  | reads told => exact nomatch asks.symm.trans told.aside
  | stops => exact nomatch asks
  | sweeps cutoff busy sweep =>
    rcases sweep with rfl | rfl
    · exact nomatch asks
    · exact nomatch asks

theorem Keyed.stirs (keyed : r.Keyed) (c : Call) (world : σ) :
    Stirs h r c world (r.call h c world).1.1 (r.call h c world).1.2 where
  moved _ _ := (call_cases h r c world).moved keyed
  still id s left new aside := by
    cases (call_cases h r c world).whence keyed left with
    | stays found => exact found
    | started start => exact absurd (congrArg Call.startId? start) new
    | operated named asks => exact nomatch asks.symm.trans (aside named)
  read := by
    refine ⟨?_, ?_, ?_⟩
    · rintro id rfl
      simp only [call]
      cases r.state id with
      | ok state => rfl
      | error refusal => rfl
    · rintro busy rfl
      rfl
    · rintro rfl
      rfl

def Dated (r : Registry) : Prop := ∀ id s, r.sessions.get? id = some s → s.lastActivity.InCalendar

theorem dated_callAll (clock : ∀ world, (h.now world).InCalendar) (calls : List (Call × σ))
    (limits : SessionLimits) : (callAll h calls (.empty limits)).Dated := by
  induction calls using List.reverseRecOn with
  | nil => exact fun _ _ found => nomatch found
  | append_singleton calls last ih =>
    rw [callAll_snoc]
    intro id s found
    cases (call_cases h _ _ _).whence (keyed_callAll h calls limits) found with
    | stays there => exact ih id s there
    | started start admitted =>
      rw [Session.opened_lastActivity]
      exact clock _
    | operated named asks there =>
      rw [Session.operate_lastActivity]
      exact clock _

structure Expires (r : Registry) (now : Timestamp) (busy : List String) : Prop where
  /-- Where the calendar goes back so far, it is a sweep to that instant. -/
  reached : Timestamp.earliest ≤ now.seconds - r.limits.idleTimeoutSecs →
    r.sweepExpired now busy =
      r.sweepIdle ⟨now.seconds - r.limits.idleTimeoutSecs, now.nanos⟩ busy
  beyond : now.seconds - r.limits.idleTimeoutSecs < Timestamp.earliest →
    r.sweepExpired now busy = ([], r)
  /-- The instant is made in two steps, either of which may fail, and neither overflows. -/
  stepwise : r.expiry now =
    ((Timestamp.span? r.limits.idleTimeoutSecs).bind now.back?).getD ⟨Timestamp.earliest, 0⟩
  bounded : ∀ span, Timestamp.span? r.limits.idleTimeoutSecs = some span →
    Int64.minValue.toInt ≤ now.seconds - span ∧ now.seconds - span ≤ Int64.maxValue.toInt

theorem Keyed.sweepIdle_earliest (keyed : r.Keyed) (dated : r.Dated) (busy : List String) :
    r.sweepIdle ⟨Timestamp.earliest, 0⟩ busy = ([], r) := by
  apply sweepIdle_nothing
  intro id swept
  obtain ⟨s, found, -, before⟩ := keyed.mem_sweepIdle.1 swept
  exact (dated id s found).not_lt_earliest before

theorem Keyed.expires (keyed : r.Keyed) (dated : r.Dated) {now : Timestamp}
    (within : now.InCalendar) (busy : List String) : Expires r now busy where
  reached long := by
    rw [sweepExpired, expiry, Timestamp.minus?, if_pos long]
    rfl
  beyond short := by
    rw [sweepExpired, expiry, Timestamp.minus?, if_neg (by omega)]
    exact keyed.sweepIdle_earliest dated busy
  stepwise := by rw [expiry, within.minus?_eq]
  bounded _ := within.back_bounded

end Registry

/-- Sweeps, for sessions that are each registered under its own id and were active at instants of
the calendar, as those are that calls lead to. -/
theorem idle_sessions_swept {σ : Type} (h : Host σ) {r : Registry} (keyed : r.Keyed)
    (dated : r.Dated) :
    (∀ cutoff busy,
      Registry.Swept r cutoff busy (r.sweepIdle cutoff busy).1 (r.sweepIdle cutoff busy).2) ∧
    (∀ c world, Registry.Stirs h r c world (r.call h c world).1.1 (r.call h c world).1.2) ∧
    (∀ now busy, now.InCalendar → Registry.Expires r now busy) :=
  ⟨keyed.swept, keyed.stirs, fun _ busy within => keyed.expires dated within busy⟩

def Host.clockwork : Host (Fin 60) where
  now tick := ⟨tick.val, 0⟩
  uptime tick := tick.val
  wait tick := tick + 1
  run request tick := (echo request, tick + 1)

theorem Host.clockwork_inCalendar (tick : Fin 60) : (clockwork.now tick).InCalendar := by
  refine ⟨?_, ?_, .inl (by simp [clockwork])⟩
  · rw [Timestamp.earliest_eq, clockwork]
    dsimp only
    omega
  · rw [Timestamp.latest_eq, clockwork]
    dsimp only
    omega

def Registry.watch : List (Registry.Call × Fin 60) :=
  [(.start "looked at" .greeting none .standard, 0),
    (.start "in flight" .greeting none .standard, 1),
    (.start "set" .greeting none .standard, 2),
    (.state "looked at", 8),
    (.setRiskLevel "set" .high, 9)]

theorem watch_swept :
    let r := Registry.callAll .clockwork Registry.watch (.empty ⟨3, 18446744073709551615, 5⟩)
    r.Keyed ∧ r.Dated ∧ r.sessions.keys = ["in flight", "looked at", "set"] ∧
      (r.sweepIdle ⟨5, 0⟩ ["in flight"]).1 = ["looked at"] ∧
      (∀ order, order.Perm r.sessions.entries →
        (Registry.sweepThrough ⟨5, 0⟩ ["in flight"] order r).1 = ["looked at"]) ∧
      (∃ s, r.sessions.get? "set" = some s ∧ s.lastActivity = ⟨9, 0⟩ ∧
        (r.sweepIdle ⟨5, 0⟩ ["in flight"]).2.sessions.get? "set" = some s) ∧
      r.sweepExpired ⟨59, 0⟩ [] = ([], r) := by
  intro r
  have keyed : r.Keyed := Registry.keyed_callAll _ _ _
  have dated : r.Dated := Registry.dated_callAll Host.clockwork_inCalendar _ _
  obtain ⟨swept, stirs, expires⟩ := idle_sessions_swept .clockwork keyed dated
  have ids : (r.sweepIdle ⟨5, 0⟩ ["in flight"]).1 = ["looked at"] := by decide +kernel
  have limits : r.limits = ⟨3, 18446744073709551615, 5⟩ := Registry.limits_callAll _ _ _
  have active : (r.sessions.get? "set").map (·.lastActivity) = some ⟨9, 0⟩ := by decide +kernel
  obtain ⟨s, found, moved⟩ := Option.map_eq_some_iff.1 active
  refine ⟨keyed, dated, by decide +kernel, ids, fun order all => ?_, ⟨s, found, moved, ?_⟩, ?_⟩
  · have named := ((swept ⟨5, 0⟩ ["in flight"]).walked order all).1
    rw [ids] at named
    exact List.perm_singleton.1 named
  · rw [(swept ⟨5, 0⟩ ["in flight"]).left, ids, if_neg (by decide), found]
  · refine (expires ⟨59, 0⟩ [] (Host.clockwork_inCalendar 59)).beyond ?_
    rw [limits, Timestamp.earliest_eq]
    decide

end Stepwise
