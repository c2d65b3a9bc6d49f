import Stepwise.Proofs.Program.Places
import Stepwise.Proofs.Program.WellFormed
/-!
The cursors met in moving through a program, whether or not it may be run. There is one for each
step of the concatenated slots, in order, and each says in which slot and how far inside it its step
stands; a slot takes up as many positions in a row as it has steps.
-/

namespace Stepwise

def Program.stepsBefore (p : Program) (slot : Nat) : Nat :=
  ((p.slots.take slot).flatMap (·.steps)).length

theorem Program.stepsBefore_succ {p : Program} {slot : Nat} {q : Procedure}
    (found : p.slots[slot]? = some q) :
    p.stepsBefore (slot + 1) = p.stepsBefore slot + q.steps.length := by
  simp only [stepsBefore, List.take_add_one, found, Option.toList_some, List.flatMap_append,
    List.length_append, List.flatMap_singleton]

theorem Program.stepsBefore_mono (p : Program) {slot other : Nat} (le : slot ≤ other) :
    p.stepsBefore slot ≤ p.stepsBefore other := by
  obtain ⟨more, rfl⟩ := Nat.exists_eq_add_of_le le
  rw [stepsBefore, stepsBefore, List.take_add, List.flatMap_append, List.length_append]
  exact Nat.le_add_right _ _

theorem Program.stepsBefore_le (p : Program) (slot : Nat) : p.stepsBefore slot ≤ p.walk.length := by
  have whole : p.walk = (p.slots.take slot ++ p.slots.drop slot).flatMap (·.steps) := by
    rw [List.take_append_drop, walk]
  rw [whole, List.flatMap_append, List.length_append]
  exact Nat.le_add_right _ _

namespace Cursor

def reached (p : Program) : Nat → Option Cursor
  | 0 => first p
  | k + 1 => (reached p k).bind (·.next p)

theorem reached_eq_place (p : Program) (k : Nat) : reached p k = (places p)[k]? := by
  induction k with
  | zero => exact first_eq_place p
  | succ k ih =>
    rw [reached, ih]
    cases found : (places p)[k]? with
    | none =>
      have past := List.getElem?_eq_none_iff.1 found
      rw [Option.bind_none, List.getElem?_eq_none (by omega)]
    | some c => exact next_place found

theorem walkFrom_places (p : Program) (fuel k : Nat) :
    walkFrom p fuel (places p)[k]? = ((places p).drop k).take fuel := by
  induction fuel generalizing k with
  | zero => simp [walkFrom]
  | succ fuel ih =>
    cases found : (places p)[k]? with
    | none =>
      have past := List.getElem?_eq_none_iff.1 found
      simp [walkFrom, List.drop_eq_nil_of_le past]
    | some c =>
      obtain ⟨inside, here⟩ := List.getElem?_eq_some_iff.1 found
      rw [walkFrom, next_place found, ih, List.drop_eq_getElem_cons inside, here,
        List.take_succ_cons]

theorem walk_eq_places (p : Program) : walk p = places p := by
  have count : p.stepCount = (places p).length := (length_places p).symm
  rw [walk, first_eq_place, walkFrom_places, List.drop_zero, count, List.take_length]

/-- A cursor stands on a step of a procedure, in the slot of that procedure, at a position of the
walk. -/
structure StandsOn (p : Program) (k : Nat) (c : Cursor) (q : Procedure) (s : Step) : Prop where
  pointer : c.instructionPointer = k
  slot : p.slots[c.orderIndex]? = some q
  offset : q.steps[c.stepIndex]? = some s
  position : p.stepsBefore c.orderIndex + c.stepIndex = k
  onWalk : p.walk[k]? = some s
  procedureId : c.procedureId = q.id
  stepId : c.stepId = s.id

theorem place_standsOn {p : Program} {k : Nat} {c : Cursor} (found : (places p)[k]? = some c) :
    ∃ q s, StandsOn p k c q s := by
  obtain ⟨before, q, after, s, stands⟩ := place_stands found
  have slot : c.orderIndex = before.length := by rw [stands.cursor]; simp
  have slots : p.slots.take c.orderIndex = before := by rw [slot, stands.slots, List.take_left]
  refine ⟨q, s, place_pointer found, ?_, stands.step, ?_, stands.onWalk, ?_, ?_⟩
  · rw [slot, stands.slots]
    simp
  · rw [Program.stepsBefore, slots, ← stands.position]
  · rw [stands.cursor]
  · rw [stands.cursor]

theorem StandsOn.within {p : Program} {k : Nat} {c : Cursor} {q : Procedure} {s : Step}
    (stands : StandsOn p k c q s) :
    p.stepsBefore c.orderIndex ≤ k ∧ k < p.stepsBefore (c.orderIndex + 1) := by
  have inside : c.stepIndex < q.steps.length := (List.getElem?_eq_some_iff.1 stands.offset).1
  have position := stands.position
  have next := Program.stepsBefore_succ stands.slot
  omega

theorem orderIndex_iff {p : Program} {k : Nat} {c : Cursor} (found : (places p)[k]? = some c)
    (slot : Nat) :
    c.orderIndex = slot ↔ p.stepsBefore slot ≤ k ∧ k < p.stepsBefore (slot + 1) := by
  obtain ⟨q, s, stands⟩ := place_standsOn found
  obtain ⟨low, high⟩ := stands.within
  constructor
  · rintro rfl
    exact ⟨low, high⟩
  · rintro ⟨least, greatest⟩
    rcases Nat.lt_trichotomy c.orderIndex slot with before | same | after
    · have := p.stepsBefore_mono (show c.orderIndex + 1 ≤ slot from before)
      omega
    · exact same
    · have := p.stepsBefore_mono (show slot + 1 ≤ c.orderIndex from after)
      omega

end Cursor

/-- Moving on from the first cursor meets one cursor for each step of the walk, and then none. Each
stands on the step of its position; the cursors of a slot are those of as many positions in a row as
it has steps; and where no id of a procedure is repeated, the step found at a cursor is the one it
stands on. -/
theorem cursors_flatten_program (p : Program) :
    (∀ k, (Cursor.reached p k).isSome = true ↔ k < p.stepCount) ∧
    (∀ k, (Cursor.walk p)[k]? = Cursor.reached p k) ∧
    (∀ k c, Cursor.reached p k = some c → ∃ q s, Cursor.StandsOn p k c q s) ∧
    (∀ slot q, p.slots[slot]? = some q → ∀ k,
      (∃ c, Cursor.reached p k = some c ∧ c.orderIndex = slot) ↔
        p.stepsBefore slot ≤ k ∧ k < p.stepsBefore slot + q.steps.length) ∧
    ((p.procedures.map (·.id)).Nodup →
      ∀ k c, Cursor.reached p k = some c → c.step? p = p.walk[k]?) := by
  simp only [Cursor.reached_eq_place]
  refine ⟨fun k => ?_, fun k => by rw [Cursor.walk_eq_places], fun k c => Cursor.place_standsOn,
    fun slot q held k => ?_, fun distinct k c => Cursor.place_step distinct⟩
  · simp [Cursor.length_places, Program.stepCount, Program.walk]
  · rw [← Program.stepsBefore_succ held]
    constructor
    · rintro ⟨c, found, here⟩
      exact (Cursor.orderIndex_iff found slot).1 here
    · intro inside
      have bound := p.stepsBefore_le (slot + 1)
      have there : k < (Cursor.places p).length := by
        rw [Cursor.length_places]
        omega
      have found := List.getElem?_eq_getElem there
      exact ⟨_, found, (Cursor.orderIndex_iff found slot).2 inside⟩

theorem greeting_cursors : (Program.greeting.procedures.map (·.id)).Nodup ∧
    ∀ k c, Cursor.reached .greeting k = some c → c.step? .greeting = Program.greeting.walk[k]? := by
  have distinct : (Program.greeting.procedures.map (·.id)).Nodup := by decide
  exact ⟨distinct, (cursors_flatten_program .greeting).2.2.2.2 distinct⟩

end Stepwise
