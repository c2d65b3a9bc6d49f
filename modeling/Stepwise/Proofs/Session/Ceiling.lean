import Stepwise.Proofs.Program.WellFormed
import Stepwise.Proofs.Session.Call
/-!
Which sessions there are. A session is registered from when its start is accepted until it is
stopped or swept, and there are never more than the limits allow; a start that would make one more
is refused, and so is whatever names a session that is gone.
-/

namespace Stepwise

theorem Options.check_kind {options : Options} {refusal : Refusal}
    (unfit : options.check = .error refusal) : refusal.kind = .validation := by
  unfold Options.check at unfit
  split at unfit
  · rw [← Except.error.inj unfit]
    rfl
  · split at unfit
    · rw [← Except.error.inj unfit]
      rfl
    · exact nomatch unfit

theorem Program.check_kind {program : Program} {refusal : Refusal}
    (unfit : program.check = .error refusal) : refusal.kind = .validation := by
  unfold Program.check at unfit
  split at unfit
  · exact nomatch unfit
  · rw [← Except.error.inj unfit]
    rfl

namespace Registry

def startedBy : Call × Response → List String
  | (.start id .., .state _) => [id]
  | _ => []

/-- The sessions that go by a call with its response. -/
def endedBy : Call × Response → List String
  | (.stop id, .stopped true) => [id]
  | (.sweepIdle .., .swept ids) => ids
  | (.sweepExpired _, .swept ids) => ids
  | _ => []

variable {σ : Type} {h : Host σ}

theorem contains_put (r : Registry) (s : Session) (id : String) :
    (r.put s).sessions.contains id = (id == s.id || r.sessions.contains id) := by
  simp only [Table.contains, get?_put]
  by_cases same : id = s.id
  · simp [same]
  · simp [same]

theorem contains_put_registered {r : Registry} {s : Session}
    (there : r.sessions.contains s.id = true) (id : String) :
    (r.put s).sessions.contains id = r.sessions.contains id := by
  rw [contains_put]
  by_cases same : id = s.id
  · simp [same, there]
  · simp [same]

theorem Keyed.contains_operated {r : Registry} (keyed : r.Keyed) {id : String} {s : Session}
    (found : r.sessions.get? id = some s) (op : Operation) (world : σ) :
    r.sessions.contains (s.operate h op world).1.id = true := by
  rw [Session.operate_id, (keyed _ _ found).own, Table.contains, found]
  rfl

theorem settled_operation {c : Call} {op : Operation} (asks : c.operation? = some op)
    (response : Response) : startedBy (c, response) = [] ∧ endedBy (c, response) = [] := by
  cases c with
  | execute | setBreakpoint | setRiskLevel => exact ⟨rfl, rfl⟩
  | _ => cases asks

theorem settled_refused (c : Call) (refusal : Refusal) :
    startedBy (c, .refused refusal) = [] ∧ endedBy (c, .refused refusal) = [] := by
  cases c with
  | _ => exact ⟨rfl, rfl⟩

theorem settled_sweep {c : Call} {cutoff : Timestamp} {busy : List String}
    (sweep : c = .sweepIdle cutoff busy ∨ c = .sweepExpired busy) (ids : List String) :
    startedBy (c, .swept ids) = [] ∧ endedBy (c, .swept ids) = ids := by
  rcases sweep with rfl | rfl
  · exact ⟨rfl, rfl⟩
  · exact ⟨rfl, rfl⟩

/-- What a call does to the registered sessions is told by its response. -/
structure Registers (r : Registry) (event : Call × Response) (next : Registry) : Prop where
  contains : ∀ id, next.sessions.contains id = true ↔
    (r.sessions.contains id = true ∨ id ∈ startedBy event) ∧ id ∉ endedBy event
  ended : ∀ id ∈ endedBy event, r.sessions.contains id = true
  started : ∀ id ∈ startedBy event, event.1.startId? = some id

theorem Registers.same {r : Registry} {event : Call × Response}
    (settled : startedBy event = [] ∧ endedBy event = []) : Registers r event r where
  contains id := by simp [settled]
  ended := by simp [settled]
  started := by simp [settled]

theorem Handles.registers {r next : Registry} {c : Call} {world : σ} {response : Response}
    (handled : Handles h r world c response next) (keyed : r.Keyed) :
    Registers r (c, response) next := by
  cases handled with
  | refuses why => exact .same (settled_refused _ _)
  | reads told =>
    cases told with
    | state | list | count => exact .same ⟨rfl, rfl⟩
  | @starts new program analysis options admitted =>
    refine ⟨fun id => ?_, fun id gone => (nomatch gone), fun id came => ?_⟩
    · rw [contains_put, (Session.opened_named new program analysis options _ world).own]
      simp [startedBy, endedBy, or_comm]
    · rw [List.mem_singleton.1 came]
      rfl
  | @operates _ id op s _ named asks found =>
    have there := keyed.contains_operated (h := h) found op world
    obtain ⟨started, ended⟩ := settled_operation asks response
    refine ⟨fun id => ?_, fun id gone => ?_, fun id came => ?_⟩
    · simp [contains_put_registered there, started, ended]
    · simp [ended] at gone
    · simp [started] at came
  | stops gone =>
    cases there : r.sessions.contains gone with
    | true =>
      refine ⟨fun id => ?_, fun id ended => ?_, fun id came => (nomatch came)⟩
      · simp [Table.contains_erase, startedBy, endedBy, and_comm]
      · rw [List.mem_singleton.1 ended]
        exact there
    | false =>
      refine ⟨fun id => ?_, fun id ended => (nomatch ended), fun id came => (nomatch came)⟩
      have other (registered : r.sessions.contains id = true) : id ≠ gone := by
        rintro rfl
        exact absurd (registered.symm.trans there) (by decide)
      simpa [Table.contains_erase, startedBy, endedBy] using other
  | sweeps cutoff busy sweep =>
    obtain ⟨started, ended⟩ := settled_sweep sweep (r.sweepIdle cutoff busy).1
    refine ⟨fun id => ?_, fun id gone => ?_, fun id came => ?_⟩
    · rw [started, ended, mem_sweepIdle]
      simp only [sweepIdle, Table.contains, Table.get?_filter]
      cases r.sessions.get? id with
      | none => simp
      | some s => simp [Option.filter]
    · rw [ended, mem_sweepIdle] at gone
      obtain ⟨s, found, -⟩ := gone
      simp [Table.contains, found]
    · simp [started] at came

theorem Handles.unfound {r next : Registry} {c : Call} {world : σ} {response : Response}
    (handled : Handles h r world c response next) {id : String} (named : c.session? = some id)
    (absent : r.sessions.get? id = none) : response = c.unfound id := by
  cases handled with
  | refuses why =>
    cases why with
    | unfit => cases named
    | absent named' stays =>
      obtain rfl := Option.some.inj (named.symm.trans named')
      cases c with
      | stop other => exact absurd rfl (stays other)
      | _ => rfl
  | starts => cases named
  | operates named' asks found =>
    obtain rfl := Option.some.inj (named.symm.trans named')
    exact absurd (absent.symm.trans found) (by simp)
  | reads told =>
    cases told with
    | state found =>
      obtain rfl := Option.some.inj named
      exact absurd (absent.symm.trans found) (by simp)
    | list | count => cases named
  | stops other =>
    obtain rfl := Option.some.inj named
    simp [Table.contains, absent, Call.unfound]
  | sweeps cutoff busy sweep =>
    rcases sweep with rfl | rfl
    · cases named
    · cases named

structure Accounted (calls : List (Call × σ)) (events : List (Call × Response)) (r : Registry) :
    Prop where
  registered : ∀ id, r.sessions.contains id = true ↔
    id ∈ events.flatMap startedBy ∧ id ∉ events.flatMap endedBy
  started : ∀ id ∈ events.flatMap startedBy, id ∈ calls.filterMap (·.1.startId?)
  ended : ∀ id ∈ events.flatMap endedBy, id ∈ events.flatMap startedBy
  gone : events.Pairwise fun earlier later => ∀ id ∈ endedBy earlier,
    later.1.session? = some id → later.2 = later.1.unfound id

theorem Accounted.call {calls : List (Call × σ)} {events : List (Call × Response)}
    {r next : Registry} {c : Call} {world : σ} {response : Response}
    (accounted : Accounted calls events r)
    (fresh : ((calls ++ [(c, world)]).filterMap (·.1.startId?)).Nodup) (keyed : r.Keyed)
    (handled : Handles h r world c response next) :
    Accounted (calls ++ [(c, world)]) (events ++ [(c, response)]) next := by
  have registers := handled.registers keyed
  -- A session that ended was started before, and a start gives an id that no start gave.
  have new : ∀ id ∈ startedBy (c, response), id ∉ events.flatMap endedBy := by
    intro id came gone
    have before := accounted.started id (accounted.ended id gone)
    have given : c.startId? = some id := registers.started id came
    rw [List.filterMap_append, List.nodup_append] at fresh
    exact fresh.2.2 id before id (by simp [given]) rfl
  refine ⟨fun id => ?_, fun id came => ?_, fun id gone => ?_, ?_⟩
  · have unused := new id
    rw [registers.contains, accounted.registered]
    simp only [List.flatMap_append, List.flatMap_singleton, List.mem_append, not_or]
    tauto
  · rw [List.flatMap_append, List.mem_append] at came
    rw [List.filterMap_append, List.mem_append]
    refine came.imp (accounted.started id) fun now => ?_
    have given : c.startId? = some id := registers.started id (by simpa using now)
    simp [given]
  · rw [List.flatMap_append, List.mem_append] at gone ⊢
    refine .inl ?_
    rcases gone with before | now
    · exact accounted.ended id before
    · exact ((accounted.registered id).1 (registers.ended id (by simpa using now))).1
  · refine List.pairwise_append.2 ⟨accounted.gone, List.pairwise_singleton _ _, ?_⟩
    intro earlier member later now id ended named
    obtain rfl := List.mem_singleton.1 now
    have lost : id ∈ events.flatMap endedBy := List.mem_flatMap.2 ⟨earlier, member, ended⟩
    have absent : ¬r.sessions.contains id = true := fun there =>
      ((accounted.registered id).1 there).2 lost
    exact handled.unfound named (by simpa [Table.contains] using absent)

theorem accounted_callAll (h : Host σ) (limits : SessionLimits) {calls : List (Call × σ)}
    (fresh : (calls.filterMap (·.1.startId?)).Nodup) :
    Accounted calls (trace h calls (.empty limits)) (callAll h calls (.empty limits)) := by
  induction calls using List.reverseRecOn with
  | nil => exact ⟨fun id => ⟨nofun, nofun⟩, nofun, nofun, .nil⟩
  | append_singleton calls last ih =>
    have earlier := fresh
    rw [List.filterMap_append, List.nodup_append] at earlier
    rw [callAll_snoc, trace_snoc]
    exact (ih earlier.1).call fresh (keyed_callAll h calls limits) (call_cases h _ _ _)

theorem checkStart_fit (r : Registry) {program : Program} {options : Options}
    (fitOptions : options.check = .ok ()) (fitProgram : ∃ found, program.check = .ok found) :
    r.checkStart program options =
      if r.limits.maxSessions ≤ r.count then .error (.capacity r.limits.maxSessions)
      else .ok () := by
  obtain ⟨found, fitProgram⟩ := fitProgram
  simp only [checkStart, fitOptions, fitProgram]
  rfl

theorem checkStart_unfit (r : Registry) {program : Program} {options : Options}
    (unfit : options.check ≠ .ok () ∨ ∀ found, program.check ≠ .ok found) :
    ∃ refusal, r.checkStart program options = .error refusal ∧ refusal.kind = .validation := by
  unfold checkStart
  cases checked : options.check with
  | error refusal => exact ⟨refusal, rfl, Options.check_kind checked⟩
  | ok _ =>
    cases read : program.check with
    | error refusal => exact ⟨refusal, rfl, Program.check_kind read⟩
    | ok found =>
      rcases unfit with unfit | unfit
      · exact absurd checked unfit
      · exact absurd read (unfit found)

theorem start_error {r : Registry} {program : Program} {options : Options} {refusal : Refusal}
    (refused : r.checkStart program options = .error refusal) (id : String)
    (analysis : Option Analysis) (world : σ) :
    (r.call h (.start id program analysis options) world).1.1.kind? = some refusal.kind := by
  simp only [call, start, refused]
  rfl

theorem start_ok {r : Registry} {program : Program} {options : Options}
    (admitted : r.checkStart program options = .ok ()) (id : String) (analysis : Option Analysis)
    (world : σ) : (r.call h (.start id program analysis options) world).1.1.kind? = none := by
  simp only [call, start_admitted h admitted]
  rfl

theorem count_put_le (r : Registry) (s : Session) : (r.put s).count ≤ r.count + 1 := by
  have size := Table.size_insert r.sessions s.id s
  change (r.sessions.insert s.id s).size ≤ r.sessions.size + 1
  split at size
  · omega
  · omega

theorem count_put_registered {r : Registry} {s : Session}
    (there : r.sessions.contains s.id = true) : (r.put s).count = r.count := by
  change (r.sessions.insert s.id s).size = r.sessions.size
  rw [Table.size_insert, if_pos there]

theorem checkStart_room {r : Registry} {program : Program} {options : Options}
    (admitted : r.checkStart program options = .ok ()) : r.count < r.limits.maxSessions := by
  cases checked : options.check with
  | error refusal =>
    rw [checkStart, checked] at admitted
    exact nomatch admitted
  | ok _ =>
    cases read : program.check with
    | error refusal =>
      rw [checkStart, checked, read] at admitted
      exact nomatch admitted
    | ok found =>
      rw [checkStart_fit r checked ⟨found, read⟩] at admitted
      split at admitted
      · exact nomatch admitted
      · next room => exact Nat.not_le.1 room

theorem Handles.bounded {r next : Registry} {c : Call} {world : σ} {response : Response}
    (handled : Handles h r world c response next) (keyed : r.Keyed)
    (bounded : r.count ≤ r.limits.maxSessions) : next.count ≤ next.limits.maxSessions := by
  cases handled with
  | refuses | reads => exact bounded
  | starts admitted =>
    have room := checkStart_room admitted
    exact Nat.le_trans (count_put_le _ _) room
  | @operates _ id op s _ named asks found =>
    have there := keyed.contains_operated (h := h) found op world
    rw [count_put_registered there]
    exact bounded
  | stops gone => exact Nat.le_trans (Table.size_erase_le _ _) bounded
  | sweeps cutoff busy => exact Nat.le_trans (Table.size_filter_le _ _) bounded

theorem bounded_callAll (h : Host σ) (calls : List (Call × σ)) (limits : SessionLimits) :
    (callAll h calls (.empty limits)).count ≤ limits.maxSessions := by
  have within : (callAll h calls (.empty limits)).count ≤
      (callAll h calls (.empty limits)).limits.maxSessions := by
    induction calls using List.reverseRecOn with
    | nil => exact Nat.zero_le _
    | append_singleton calls last ih =>
      rw [callAll_snoc]
      exact (call_cases h _ _ _).bounded (keyed_callAll h calls limits) ih
  rwa [limits_callAll] at within

theorem isBefore_iff {a b : Summary} : Summary.isBefore a b = true ↔
    a.createdAt < b.createdAt ∨ a.createdAt = b.createdAt ∧ a.sessionId ≤ b.sessionId := by
  simp [Summary.isBefore]

theorem isBefore_trans (a b c : Summary) (first : Summary.isBefore a b = true)
    (second : Summary.isBefore b c = true) : Summary.isBefore a c = true := by
  rw [isBefore_iff] at *
  rcases first with less | ⟨same, le⟩
  · rcases second with less' | ⟨same', -⟩
    · exact .inl (Timestamp.lt_trans less less')
    · exact .inl (same' ▸ less)
  · rcases second with less' | ⟨same', le'⟩
    · exact .inl (same ▸ less')
    · exact .inr ⟨same.trans same', String.le_trans le le'⟩

theorem isBefore_total (a b : Summary) : (Summary.isBefore a b || Summary.isBefore b a) = true := by
  rw [Bool.or_eq_true, isBefore_iff, isBefore_iff]
  rcases Timestamp.lt_trichotomy a.createdAt b.createdAt with less | same | more
  · exact .inl (.inl less)
  · exact (String.le_total a.sessionId b.sessionId).imp (fun le => .inr ⟨same, le⟩)
      fun le => .inr ⟨same.symm, le⟩
  · exact .inr (.inl more)

theorem list_perm (r : Registry) (busy : List String) :
    (r.list busy).Perm (r.sessions.entries.map fun e => e.2.listed (busy.contains e.1)) :=
  List.mergeSort_perm _ _

theorem list_sorted (r : Registry) (busy : List String) :
    (r.list busy).Pairwise fun a b =>
      a.createdAt < b.createdAt ∨ a.createdAt = b.createdAt ∧ a.sessionId ≤ b.sessionId :=
  (List.pairwise_mergeSort isBefore_trans isBefore_total _).imp isBefore_iff.1

theorem Keyed.list_ids {r : Registry} (keyed : r.Keyed) (busy : List String) :
    ((r.list busy).map (·.sessionId)).Perm r.sessions.keys := by
  have ids : (r.sessions.entries.map fun e => e.2.listed (busy.contains e.1)).map (·.sessionId) =
      r.sessions.keys := by
    rw [List.map_map]
    refine List.map_congr_left fun e member => ?_
    have found : r.sessions.get? e.1 = some e.2 := Table.get?_iff_mem.2 member
    exact (keyed _ _ found).listed _
  rw [← ids]
  exact (r.list_perm busy).map _

theorem Keyed.mem_list {r : Registry} (keyed : r.Keyed) {busy : List String} {summary : Summary}
    (member : summary ∈ r.list busy) :
    ∃ s, r.sessions.get? summary.sessionId = some s ∧
      summary = s.listed (busy.contains summary.sessionId) := by
  obtain ⟨e, entry, rfl⟩ := List.mem_map.1 ((r.list_perm busy).mem_iff.1 member)
  have found : r.sessions.get? e.1 = some e.2 := Table.get?_iff_mem.2 entry
  rw [(keyed _ _ found).listed]
  exact ⟨e.2, found, rfl⟩

/-- What holds of the sessions that calls have led to, given what was answered. -/
structure Governed (h : Host σ) (limits : SessionLimits) (events : List (Call × Response))
    (r : Registry) : Prop where
  registered : ∀ id, r.sessions.contains id = true ↔
    id ∈ events.flatMap startedBy ∧ id ∉ events.flatMap endedBy
  bounded : r.count ≤ limits.maxSessions
  admitted : ∀ id program analysis options world,
    options.check = .ok () → (∃ found, program.check = .ok found) →
    (r.call h (.start id program analysis options) world).1.1.kind? =
      if r.count = limits.maxSessions then some .capacity else none
  validated : ∀ id program analysis options world,
    (options.check ≠ .ok () ∨ ∀ found, program.check ≠ .ok found) →
    (r.call h (.start id program analysis options) world).1.1.kind? = some .validation
  /-- After a session has been stopped or swept, whatever names it is told that there is none; so a
  second stop is told that there was nothing to stop. -/
  gone : events.Pairwise fun earlier later => ∀ id ∈ endedBy earlier,
    later.1.session? = some id → later.2 = later.1.unfound id
  listed : ∀ busy id, id ∈ (r.list busy).map (·.sessionId) ↔ r.sessions.contains id = true
  once : ∀ busy, ((r.list busy).map (·.sessionId)).Nodup
  shown : ∀ busy, ∀ summary ∈ r.list busy, ∃ s, r.sessions.get? summary.sessionId = some s ∧
    summary = s.listed (busy.contains summary.sessionId)
  sorted : ∀ busy, (r.list busy).Pairwise fun a b =>
    a.createdAt < b.createdAt ∨ a.createdAt = b.createdAt ∧ a.sessionId ≤ b.sessionId
  counted : ∀ busy, (r.list busy).length = r.count

end Registry

/-- Whatever is called, as long as no two starts give the same id. -/
theorem sessions_governed {σ : Type} (h : Host σ) (limits : SessionLimits)
    {calls : List (Registry.Call × σ)} (fresh : (calls.filterMap (·.1.startId?)).Nodup) :
    Registry.Governed h limits (Registry.trace h calls (.empty limits))
      (Registry.callAll h calls (.empty limits)) := by
  have accounted := Registry.accounted_callAll h limits fresh
  have bounded := Registry.bounded_callAll h calls limits
  have capped := Registry.limits_callAll h calls limits
  have keyed := Registry.keyed_callAll h calls limits
  generalize Registry.callAll h calls (.empty limits) = r at *
  refine ⟨accounted.registered, bounded, ?_, ?_, accounted.gone, ?_, ?_,
    fun busy summary => keyed.mem_list, r.list_sorted, ?_⟩
  · intro id program analysis options world fitOptions fitProgram
    have checked := r.checkStart_fit fitOptions fitProgram
    rw [capped] at checked
    by_cases full : r.count = limits.maxSessions
    · rw [if_pos (Nat.le_of_eq full.symm)] at checked
      rw [if_pos full, Registry.start_error checked]
      rfl
    · rw [if_neg (by omega)] at checked
      rw [if_neg full, Registry.start_ok checked]
  · intro id program analysis options world unfit
    obtain ⟨refusal, refused, kind⟩ := r.checkStart_unfit unfit
    rw [Registry.start_error refused, kind]
  · intro busy id
    rw [(keyed.list_ids busy).mem_iff, Table.contains_iff_mem_keys]
  · intro busy
    exact (keyed.list_ids busy).nodup_iff.2 r.sessions.keys_nodup
  · intro busy
    rw [(r.list_perm busy).length_eq, List.length_map]
    rfl

/-- A place is taken, given up by a stop and taken again; a sweep passes by the session that has
been active since. -/
def Registry.shift : List (Registry.Call × Nat) :=
  [(.start "first" .greeting none .standard, 0),
    (.start "second" .greeting none .standard, 1),
    (.start "third" .greeting none .standard, 2),
    (.stop "first", 3),
    (.start "fourth" .greeting none .standard, 4),
    (.stop "first", 5),
    (.execute "first" .resume, 6),
    (.sweepIdle ⟨2, 0⟩ [], 7)]

theorem shift_governed :
    (Registry.shift.filterMap (·.1.startId?)).Nodup ∧
    ((Registry.trace .echoing Registry.shift (.empty ⟨2, 60, 5⟩)).flatMap Registry.startedBy,
      (Registry.trace .echoing Registry.shift (.empty ⟨2, 60, 5⟩)).flatMap Registry.endedBy) =
        (["first", "second", "fourth"], ["first", "second"]) ∧
    Registry.Governed .echoing ⟨2, 60, 5⟩
      (Registry.trace .echoing Registry.shift (.empty ⟨2, 60, 5⟩))
      (Registry.callAll .echoing Registry.shift (.empty ⟨2, 60, 5⟩)) := by
  have fresh : (Registry.shift.filterMap (·.1.startId?)).Nodup := by decide
  exact ⟨fresh, by decide +kernel, sessions_governed .echoing ⟨2, 60, 5⟩ fresh⟩

end Stepwise
