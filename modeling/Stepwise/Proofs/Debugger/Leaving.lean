import Stepwise.Proofs.Debugger.Extent
import Stepwise.Proofs.Program.Flattened
import Mathlib.Data.Nat.Find
/-!
How far stepping out leads. A live run evaluates the steps that are left of the slot it stands in,
up to the first that fails or bears a breakpoint, and none of any other slot. A slot is left at its
last step, though the next may list the same procedure again.
-/

namespace Stepwise

theorem Cursor.StandsOn.stretch {p : Program} {k n : Nat} {c : Cursor} {q : Procedure} {s : Step}
    (stands : c.StandsOn p k q s) (inside : k + n ≤ p.stepsBefore (c.orderIndex + 1)) :
    p.stretch k (k + n) = (q.steps.drop c.stepIndex).take n := by
  obtain ⟨bound, held⟩ := List.getElem?_eq_some_iff.1 stands.slot
  have offset : c.stepIndex < q.steps.length := (List.getElem?_eq_some_iff.1 stands.offset).1
  rw [Program.stepsBefore_succ stands.slot] at inside
  have split : p.walk = (p.slots.take c.orderIndex).flatMap (·.steps) ++
      (q.steps ++ (p.slots.drop (c.orderIndex + 1)).flatMap (·.steps)) := by
    rw [← held, ← List.flatMap_cons, ← List.drop_eq_getElem_cons bound, ← List.flatMap_append,
      List.take_append_drop, Program.walk]
  have position := stands.position
  have past : ((p.slots.take c.orderIndex).flatMap (·.steps)).length + c.stepIndex = k := position
  have room : n ≤ (q.steps.drop c.stepIndex).length := by
    rw [List.length_drop]
    omega
  rw [Program.stretch, List.drop_take, Nat.add_sub_cancel_left, split, ← past,
    List.drop_length_add_append, List.drop_append_of_le_length (Nat.le_of_lt offset),
    List.take_append_of_le_length room]

structure Cursor.OpensNext (p : Program) (slot : Nat) (c : Cursor) : Prop where
  later : slot < c.orderIndex
  opening : c.stepIndex = 0
  held : ∃ q, p.slots[c.orderIndex]? = some q ∧ c.procedureId = q.id ∧ c.step? p = q.steps.head?
  between : ∀ other q, slot < other → other < c.orderIndex → p.slots[other]? = some q →
    q.steps = []

theorem Cursor.opensNext {p : Program} {slot : Nat} {c : Cursor}
    (distinct : (p.procedures.map (·.id)).Nodup)
    (found : (places p)[p.stepsBefore (slot + 1)]? = some c) : OpensNext p slot c := by
  obtain ⟨q, s, stands⟩ := place_standsOn found
  have position := stands.position
  have later : slot < c.orderIndex := by
    refine Nat.lt_of_not_le fun le => ?_
    have above := p.stepsBefore_mono (show c.orderIndex + 1 ≤ slot + 1 by omega)
    have := stands.within
    omega
  have reach := p.stepsBefore_mono (show slot + 1 ≤ c.orderIndex from later)
  have opening : c.stepIndex = 0 := by omega
  have first := stands.offset
  rw [opening] at first
  refine ⟨later, opening, ⟨q, stands.slot, stands.procedureId, ?_⟩,
    fun other r above below listed => ?_⟩
  · rw [Cursor.place_step distinct found, stands.onWalk, List.head?_eq_getElem?, first]
  · have low := p.stepsBefore_mono (show slot + 1 ≤ other from above)
    have high := p.stepsBefore_mono (show other + 1 ≤ c.orderIndex from below)
    rw [Program.stepsBefore_succ listed] at high
    exact List.length_eq_zero_iff.1 (by omega)

namespace Debugger

variable {σ : Type}

def LeavesAt (h : Host σ) (p : Program) (d : Debugger) (world : σ) (last j : Nat) : Prop :=
  FailsAt h d world j ∨ MarkedAt p d j ∨ j = last

/-- How far stepping out takes a live run from a cursor whose slot ends at a position: `after` is
where it is then and `ran` the count of steps that it tells. -/
structure StepsOut (h : Host σ) (p : Program) (d : Debugger) (world : σ) (c : Cursor)
    (last ran : Nat) (after : Debugger) : Prop where
  ends : ∀ fuel, d.maxSteps - c.instructionPointer < fuel →
    runFuel h (hasLeft c.orderIndex) fuel d world = d.stepOut h world
  halts : ∀ j, c.instructionPointer ≤ j → j ≤ last → j < d.maxSteps →
    LeavesAt h p d world last j →
    (∀ i, c.instructionPointer ≤ i → i < j → ¬ LeavesAt h p d world last i) →
    HaltedAt h p d world c.instructionPointer j ran after
  exhausted : (∀ j, c.instructionPointer ≤ j → j ≤ last → j < d.maxSteps →
    ¬ LeavesAt h p d world last j) → Exhausted p d c.instructionPointer ran after
  next : ∀ place, after.state.current = some place → place.instructionPointer = last + 1 →
    place.OpensNext p c.orderIndex
  inside : ∃ q outcomes, p.slots[c.orderIndex]? = some q ∧
    Wrote d after ((q.steps.drop c.stepIndex).take ran) outcomes

section

variable {h : Host σ} {p : Program} {maxSteps : Nat} {d : Debugger}

theorem awaits_hasLeft (slot : Nat) :
    Awaits p maxSteps (hasLeft slot) fun j =>
      ∀ place, (Cursor.places p)[j + 1]? = some place → place.orderIndex ≠ slot := by
  intro m j rest count
  have current := rest.current
  rw [count] at current
  cases found : (Cursor.places p)[j + 1]? with
  | none => simp [hasLeft, current, found]
  | some place => simp [hasLeft, current, found]

theorem haltsAt_leaving {world : σ} {slot last j : Nat}
    (ends : last + 1 = p.stepsBefore (slot + 1)) (low : p.stepsBefore slot ≤ j) (high : j ≤ last) :
    HaltsAt h p d world (fun j =>
        ∀ place, (Cursor.places p)[j + 1]? = some place → place.orderIndex ≠ slot) j ↔
      LeavesAt h p d world last j := by
  have within := p.stepsBefore_le (slot + 1)
  have left : (∀ place, (Cursor.places p)[j + 1]? = some place → place.orderIndex ≠ slot) ↔
      j = last := by
    constructor
    · intro away
      refine Decidable.by_contra fun early => ?_
      obtain ⟨place, found⟩ := Option.isSome_iff_exists.1
        (place_isSome.2 (by omega : j + 1 < p.walk.length))
      exact away place found ((Cursor.orderIndex_iff found slot).2 (by omega))
    · rintro rfl place found here
      have := (Cursor.orderIndex_iff found slot).1 here
      omega
  have final : j + 1 = p.walk.length → j = last := by omega
  rw [HaltsAt, LeavesAt, left]
  constructor
  · rintro (fails | marked | ended | there)
    · exact .inl fails
    · exact .inr (.inl marked)
    · exact .inr (.inr (final ended))
    · exact .inr (.inr there)
  · exact Or.imp_right (Or.imp_right .inr)

theorem HaltedAt.wrote {world : σ} {k j ran : Nat} {after : Debugger}
    (halted : HaltedAt h p d world k j ran after) (le : k ≤ j) :
    ∃ outcomes, Wrote d after (p.stretch k (k + ran)) outcomes := by
  have past : k + ran = j + 1 := by
    have := halted.ran
    omega
  rw [past]
  by_cases fails : FailsAt h d world j
  · exact ⟨_, (halted.failed fails).2⟩
  · exact ⟨_, halted.passed fails⟩

theorem Exhausted.wrote {k ran : Nat} {after : Debugger} (exhausted : Exhausted p d k ran after)
    (le : k ≤ d.maxSteps) : ∃ outcomes, Wrote d after (p.stretch k (k + ran)) outcomes := by
  rw [exhausted.ran, Nat.add_sub_cancel' le]
  exact ⟨_, exhausted.passed⟩

section

variable {c : Cursor} {last : Nat} {world : σ} (rest : AtRest p maxSteps d) (valid : p.WellFormed)
  (live : d.state.status.isFinal = false) (current : d.state.current = some c)
  (ends : last + 1 = p.stepsBefore (c.orderIndex + 1))
include rest valid live current ends

theorem AtRest.stepOut_halts {j : Nat} (le : d.state.stepsExecuted ≤ j) (inside : j ≤ last)
    (allowed : j < d.maxSteps) (leaves : LeavesAt h p d world last j)
    (clear : ∀ i, d.state.stepsExecuted ≤ i → i < j → ¬ LeavesAt h p d world last i) :
    HaltedAt h p d world d.state.stepsExecuted j (d.stepOut h world).1.1.2
      (d.stepOut h world).1.2 := by
  obtain ⟨q, s, stands⟩ := Cursor.place_standsOn (rest.current.symm.trans current)
  have low := stands.within.1
  have bound := p.stepsBefore_le (c.orderIndex + 1)
  obtain ⟨n, rfl⟩ := Nat.exists_eq_add_of_le le
  simp only [stepOut, current]
  refine runUntil_halts rest valid live (awaits_hasLeft c.orderIndex) (by omega)
    ((haltsAt_leaving ends (by omega) inside).2 leaves) fun i less halts => ?_
  exact clear _ (by omega) (by omega) ((haltsAt_leaving ends (by omega) (by omega)).1 halts)

theorem AtRest.stepOut_exhausted (clear : ∀ j, d.state.stepsExecuted ≤ j → j ≤ last →
      j < d.maxSteps → ¬ LeavesAt h p d world last j) :
    d.maxSteps ≤ last ∧ Exhausted p d d.state.stepsExecuted (d.stepOut h world).1.1.2
      (d.stepOut h world).1.2 := by
  obtain ⟨q, s, stands⟩ := Cursor.place_standsOn (rest.current.symm.trans current)
  obtain ⟨low, high⟩ := stands.within
  have bound := p.stepsBefore_le (c.orderIndex + 1)
  have short : d.maxSteps ≤ last := by
    refine Nat.le_of_not_lt fun room => ?_
    exact clear last (by omega) (Nat.le_refl _) room (.inr (.inr rfl))
  refine ⟨short, ?_⟩
  simp only [stepOut, current]
  refine runUntil_exhausted rest valid live (awaits_hasLeft c.orderIndex) (by omega)
    fun j le allowed halts => ?_
  exact clear j le (by omega) allowed ((haltsAt_leaving ends (by omega) (by omega)).1 halts)

variable (h world) in
theorem AtRest.stepOut_wrote : ∃ ran outcomes, (d.stepOut h world).1.1.2 = ran ∧
    d.state.stepsExecuted + ran ≤ last + 1 ∧
    Wrote d (d.stepOut h world).1.2
      (p.stretch d.state.stepsExecuted (d.state.stepsExecuted + ran)) outcomes := by
  have bounded := rest.bounded
  rw [← rest.limit] at bounded
  by_cases leaving : ∃ j, d.state.stepsExecuted ≤ j ∧ j ≤ last ∧ j < d.maxSteps ∧
      LeavesAt h p d world last j
  · -- of the positions at which stepping out may end, it ends at the first
    classical
    obtain ⟨le, inside, allowed, leaves⟩ := Nat.find_spec leaving
    have halted := rest.stepOut_halts valid live current ends le inside allowed leaves
      fun i low less there => Nat.find_min leaving less ⟨low, by omega, by omega, there⟩
    obtain ⟨outcomes, wrote⟩ := halted.wrote le
    have count := halted.ran
    exact ⟨_, outcomes, rfl, by omega, wrote⟩
  · obtain ⟨short, exhausted⟩ := rest.stepOut_exhausted valid live current ends
      fun j le inside allowed leaves => leaving ⟨j, le, inside, allowed, leaves⟩
    obtain ⟨outcomes, wrote⟩ := exhausted.wrote bounded
    have count := exhausted.ran
    exact ⟨_, outcomes, rfl, by omega, wrote⟩

theorem AtRest.stepsOut :
    StepsOut h p d world c last (d.stepOut h world).1.1.2 (d.stepOut h world).1.2 := by
  obtain ⟨q, s, stands⟩ := Cursor.place_standsOn (rest.current.symm.trans current)
  have after : AtRest p maxSteps (d.stepOut h world).1.2 :=
    (AtRest.kept h valid maxSteps).operates rest (operate_cases h (.command .stepOut) d world)
  constructor
  · intro fuel enough
    rw [stands.pointer] at enough
    simp only [stepOut, current]
    exact runFuel_enough _ world enough
  · rw [stands.pointer]
    intro j le inside allowed leaves clear
    exact rest.stepOut_halts valid live current ends le inside allowed leaves clear
  · rw [stands.pointer]
    exact fun clear => (rest.stepOut_exhausted valid live current ends clear).2
  · intro place there pointer
    have placed := after.current.symm.trans there
    rw [(Cursor.place_pointer placed).symm.trans pointer, ends] at placed
    exact Cursor.opensNext valid.procedureIds.distinct placed
  · obtain ⟨ran, outcomes, rfl, inside, wrote⟩ := rest.stepOut_wrote h world valid live current ends
    rw [stands.stretch (ends ▸ inside)] at wrote
    exact ⟨q, outcomes, stands.slot, wrote⟩

end

end

end Debugger

/-- From any live state that an operator can bring a valid program to, stepping out evaluates the
steps of the slot up to the first that fails, bears a breakpoint or is the last of the slot, or else
all that are allowed, and leaves the run accordingly. -/
theorem leaving_extent {σ : Type} (h : Host σ) {p : Program} {found : List Diagnostic}
    (ok : p.check = .ok found) (analysis : Option Analysis) (options : Options) (maxSteps : Nat)
    (ops : List Operation) (world : σ) :
    let d := ((Debugger.start p analysis options maxSteps).operateAll h ops world).1
    let now := ((Debugger.start p analysis options maxSteps).operateAll h ops world).2
    d.state.status = .initialized ∨ d.state.status = .paused →
      d.maxSteps = maxSteps ∧ ∃ c last, d.state.current = some c ∧
        last + 1 = p.stepsBefore (c.orderIndex + 1) ∧ c.instructionPointer ≤ last ∧
        Debugger.StepsOut h p d now c last (d.execute h .stepOut now).1.1.stepsRun
          (d.execute h .stepOut now).1.2 := by
  intro d now status
  have valid := Program.wellFormed_of_check ok
  have rest : d.AtRest p maxSteps := .run valid analysis options ops world
  have live : d.state.status.isFinal = false := by
    rcases status with initial | paused
    · rw [initial]
      rfl
    · rw [paused]
      rfl
  obtain ⟨c, current⟩ := Option.ne_none_iff_exists'.1 (rest.live_cursor live)
  obtain ⟨q, s, stands⟩ := Cursor.place_standsOn (rest.current.symm.trans current)
  have high := stands.within.2
  have pointer := stands.pointer
  obtain ⟨last, ends⟩ : ∃ last, last + 1 = p.stepsBefore (c.orderIndex + 1) :=
    ⟨p.stepsBefore (c.orderIndex + 1) - 1, by omega⟩
  exact ⟨rest.limit, c, last, current, ends, by omega, rest.stepsOut valid live current ends⟩

/-- The last procedure is listed twice in a row, and stepping out of the first listing of it ends
at the second. -/
theorem greeting_leaving : ∃ found, Program.greeting.check = .ok found ∧
    let run := (Debugger.start .greeting none Options.standard 4).operateAll .echoing
      [.command .stepOut] 0
    run.1.state.status = .paused ∧
      (run.1.execute .echoing .stepOut run.2).1.2.state.current =
        some ⟨"end", "keep", 0, 3, 3⟩ ∧
      ∃ c last, run.1.state.current = some c ∧
        last + 1 = Program.greeting.stepsBefore (c.orderIndex + 1) ∧
        c.instructionPointer ≤ last ∧
        Debugger.StepsOut .echoing .greeting run.1 run.2 c last
          (run.1.execute .echoing .stepOut run.2).1.1.stepsRun
          (run.1.execute .echoing .stepOut run.2).1.2 := by
  obtain ⟨found, ok⟩ := (Program.check_ok_iff .greeting).2 Program.greeting_wellFormed
  have extent := leaving_extent .echoing ok none Options.standard 4 [.command .stepOut] 0
    (.inr (by decide +kernel))
  exact ⟨found, ok, by decide +kernel, by decide +kernel, extent.2⟩

end Stepwise
