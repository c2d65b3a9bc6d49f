import Stepwise.Program.Cursor
/-!
The places of a program: one cursor for each step of its walk, in order. Moving on from the place
of a position leads to that of the next position, and where ids of procedures are distinct the step
found at a place is the step of the walk at that position.
-/

namespace Stepwise

namespace Cursor

def ofSlot (slot start : Nat) (q : Procedure) : List Cursor :=
  q.steps.mapIdx fun i s => ⟨q.id, s.id, i, start + i, slot⟩

def placesFrom (slot start : Nat) : List Procedure → List Cursor
  | [] => []
  | q :: rest => ofSlot slot start q ++ placesFrom (slot + 1) (start + q.steps.length) rest

def places (p : Program) : List Cursor := placesFrom 0 0 p.slots

theorem length_ofSlot (slot start : Nat) (q : Procedure) :
    (ofSlot slot start q).length = q.steps.length := by
  simp [ofSlot]

theorem getElem?_ofSlot (slot start : Nat) (q : Procedure) (i : Nat) :
    (ofSlot slot start q)[i]? = q.steps[i]?.map fun s => ⟨q.id, s.id, i, start + i, slot⟩ := by
  simp [ofSlot]

theorem length_placesFrom (slot start : Nat) (l : List Procedure) :
    (placesFrom slot start l).length = (l.flatMap (·.steps)).length := by
  induction l generalizing slot start with
  | nil => rfl
  | cons q rest ih => simp [placesFrom, length_ofSlot, ih]

theorem ofSlots_eq_head (slot start : Nat) (l : List Procedure) :
    ofSlots slot start l = (placesFrom slot start l).head? := by
  induction l generalizing slot start with
  | nil => rfl
  | cons q rest ih =>
    rw [ofSlots, placesFrom]
    cases steps : q.steps with
    | nil => simp [ofSlot, steps, ih]
    | cons s later => simp [ofSlot, steps]

/-- Where the place of a position stands: `before` are the slots passed, `i` is the offset in the
slot reached. -/
structure StandsAt (slot start : Nat) (l : List Procedure) (k : Nat) (c : Cursor)
    (before : List Procedure) (q : Procedure) (after : List Procedure) (s : Step) : Prop where
  slots : l = before ++ q :: after
  step : q.steps[c.stepIndex]? = some s
  position : k = (before.flatMap (·.steps)).length + c.stepIndex
  cursor : c = ⟨q.id, s.id, c.stepIndex, start + k, slot + before.length⟩
  following : (placesFrom slot start l)[k + 1]? =
    match q.steps[c.stepIndex + 1]? with
    | some s => some ⟨q.id, s.id, c.stepIndex + 1, start + k + 1, slot + before.length⟩
    | none => ofSlots (slot + before.length + 1) (start + k + 1) after

theorem place_stands {slot start k : Nat} {l : List Procedure} {c : Cursor}
    (found : (placesFrom slot start l)[k]? = some c) :
    ∃ before q after s, StandsAt slot start l k c before q after s := by
  induction l generalizing slot start k with
  | nil => simp [placesFrom] at found
  | cons q rest ih =>
    have size := length_ofSlot slot start q
    by_cases inside : k < q.steps.length
    · rw [placesFrom, List.getElem?_append_left (by omega), getElem?_ofSlot,
        Option.map_eq_some_iff] at found
      obtain ⟨s, step, rfl⟩ := found
      refine ⟨[], q, rest, s, rfl, step, by simp, by simp, ?_⟩
      rw [placesFrom]
      by_cases last : k + 1 < q.steps.length
      · rw [List.getElem?_append_left (by omega), getElem?_ofSlot]
        simp [List.getElem?_eq_getElem last, Nat.add_assoc]
      · have full : k + 1 = q.steps.length := by omega
        rw [List.getElem?_append_right (by omega), size, full, Nat.sub_self,
          List.getElem?_eq_none (Nat.le_refl _)]
        simp [ofSlots_eq_head, List.head?_eq_getElem?, Nat.add_assoc, full]
    · rw [placesFrom, List.getElem?_append_right (by omega), size] at found
      obtain ⟨before, r, after, s, stands⟩ := ih found
      have total : start + q.steps.length + (k - q.steps.length) = start + k := by omega
      have next : k + 1 - q.steps.length = k - q.steps.length + 1 := by omega
      have depth : slot + 1 + before.length = slot + (q :: before).length := by
        simp only [List.length_cons]; omega
      refine ⟨q :: before, r, after, s, ?_, stands.step, ?_, ?_, ?_⟩
      · rw [stands.slots, List.cons_append]
      · have := stands.position
        simp only [List.flatMap_cons, List.length_append]
        omega
      · have := stands.cursor
        rwa [total, depth] at this
      · have := stands.following
        rw [placesFrom, List.getElem?_append_right (by omega), size, next, this, total, depth]

theorem first_eq_place (p : Program) : first p = (places p)[0]? := by
  rw [first, ofSlots_eq_head, List.head?_eq_getElem?, places]

theorem length_places (p : Program) : (places p).length = p.walk.length :=
  length_placesFrom 0 0 p.slots

theorem next_place {p : Program} {k : Nat} {c : Cursor} (found : (places p)[k]? = some c) :
    c.next p = (places p)[k + 1]? := by
  obtain ⟨before, q, after, s, stands⟩ := place_stands found
  have slot : c.orderIndex = before.length := by rw [stands.cursor]; simp
  have procedure : c.procedureId = q.id := by rw [stands.cursor]
  have pointer : c.instructionPointer = k := by rw [stands.cursor]; simp
  have following := stands.following
  simp only [Nat.zero_add] at following
  rw [places, following, next, slot, pointer, stands.slots, List.drop_left]
  refine (if_pos procedure.symm).trans ?_
  cases q.steps[c.stepIndex + 1]? with
  | none => rfl
  | some s => rfl

theorem place_pointer {p : Program} {k : Nat} {c : Cursor} (found : (places p)[k]? = some c) :
    c.instructionPointer = k := by
  obtain ⟨before, q, after, s, stands⟩ := place_stands found
  rw [stands.cursor]
  simp

theorem place_slot {p : Program} {k : Nat} {c : Cursor} (found : (places p)[k]? = some c) :
    ∃ q, p.slots[c.orderIndex]? = some q ∧ q.id = c.procedureId := by
  obtain ⟨before, q, after, s, stands⟩ := place_stands found
  have slot : c.orderIndex = before.length := by rw [stands.cursor]; simp
  have procedure : c.procedureId = q.id := by rw [stands.cursor]
  refine ⟨q, ?_, procedure.symm⟩
  rw [slot, stands.slots]
  simp

theorem StandsAt.onWalk {slot start k : Nat} {l before after : List Procedure} {c : Cursor}
    {q : Procedure} {s : Step} (stands : StandsAt slot start l k c before q after s) :
    (l.flatMap (·.steps))[k]? = some s := by
  have inside : c.stepIndex < q.steps.length := (List.getElem?_eq_some_iff.1 stands.step).1
  rw [stands.slots, List.flatMap_append, stands.position, List.flatMap_cons,
    List.getElem?_append_right (Nat.le_add_right _ _), Nat.add_sub_cancel_left,
    List.getElem?_append_left inside, stands.step]

theorem place_walk {p : Program} {k : Nat} {c : Cursor} (found : (places p)[k]? = some c) :
    ∃ s, p.walk[k]? = some s ∧ s.id = c.stepId := by
  obtain ⟨before, q, after, s, stands⟩ := place_stands found
  exact ⟨s, stands.onWalk, by rw [stands.cursor]⟩

end Cursor

namespace Program

theorem slots_declared {p : Program} {q : Procedure} (member : q ∈ p.slots) :
    q ∈ p.procedures := by
  unfold slots at member
  split at member
  · exact member
  · obtain ⟨id, _, found⟩ := List.mem_filterMap.1 member
    exact List.mem_of_find?_eq_some found

theorem procedure?_declared {p : Program} {q : Procedure}
    (distinct : (p.procedures.map (·.id)).Nodup) (member : q ∈ p.procedures) :
    p.procedure? q.id = some q := by
  unfold procedure?
  generalize p.procedures = l at distinct member
  induction l with
  | nil => simp at member
  | cons r rest ih =>
    obtain ⟨fresh, tail⟩ := List.nodup_cons.1 distinct
    rcases List.mem_cons.1 member with same | later
    · simp [same]
    · have differ : r.id ≠ q.id := fun same => fresh (List.mem_map.2 ⟨q, later, same.symm⟩)
      simpa [differ] using ih tail later

end Program

theorem Cursor.place_step {p : Program} {k : Nat} {c : Cursor}
    (distinct : (p.procedures.map (·.id)).Nodup) (found : (places p)[k]? = some c) :
    c.step? p = p.walk[k]? := by
  obtain ⟨before, q, after, s, stands⟩ := place_stands found
  have declared : q ∈ p.procedures := Program.slots_declared (by rw [stands.slots]; simp)
  have procedure : c.procedureId = q.id := by rw [stands.cursor]
  have named : s.id = c.stepId := by rw [stands.cursor]
  have onWalk : p.walk[k]? = some s := stands.onWalk
  rw [step?, procedure, Program.procedure?_declared distinct declared, Option.bind_some,
    stands.step, Option.bind_some, if_pos named, onWalk]

theorem Cursor.step?_id {p : Program} {c : Cursor} {s : Step} (found : c.step? p = some s) :
    s.id = c.stepId := by
  obtain ⟨q, -, found⟩ := Option.bind_eq_some_iff.1 found
  obtain ⟨t, -, found⟩ := Option.bind_eq_some_iff.1 found
  split at found
  · next same => exact Option.some.inj found ▸ same
  · simp at found

end Stepwise
