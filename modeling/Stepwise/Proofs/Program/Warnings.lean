import Stepwise.Program.Validation
/-!
What the rule on undefined variables reports, position by position of the walk: of the names that a
step is taken to read, each once, those that neither the program's memory nor an earlier step could
have defined.
-/

namespace Stepwise

namespace Program

def located (p : Program) : List (String × Step) :=
  p.slots.flatMap fun q => q.steps.map fun s => (q.id, s)

theorem map_located (p : Program) : p.located.map (·.2) = p.walk := by
  rw [located, walk, List.map_flatMap]
  congr 1
  funext q
  simp [Function.comp_def]

/-- The names that can be defined when a position of the walk is reached. -/
def definedBefore (p : Program) (k : Nat) : List String :=
  p.globalMemory.keys ++ (p.walk.take k).flatMap (·.definedVariables)

theorem definedBefore_succ {p : Program} {k : Nat} {s : Step} (step : p.walk[k]? = some s) :
    p.definedBefore (k + 1) = p.definedBefore k ++ s.definedVariables := by
  rw [definedBefore, List.take_add_one, step, List.flatMap_append, ← List.append_assoc,
    ← definedBefore]
  simp

end Program

namespace Validation

def reportsOn (defined : List String) (procedureId : String) (s : Step) : List Diagnostic :=
  ((distinct (usedVariables s)).filter fun n => !defined.contains n).map
    fun n => ⟨.step procedureId s.id, .undefinedVariable n⟩

def reportsAt (p : Program) (k : Nat) : List Diagnostic :=
  match p.located[k]? with
  | some (procedureId, s) => reportsOn (p.definedBefore k) procedureId s
  | none => []

theorem undefinedFrom_eq (defined : List String) (l : List (String × Step)) :
    undefinedFrom defined l = (List.range l.length).flatMap fun k =>
      match l[k]? with
      | some (procedureId, s) =>
        reportsOn (defined ++ (l.take k).flatMap (·.2.definedVariables)) procedureId s
      | none => [] := by
  induction l generalizing defined with
  | nil => rfl
  | cons head rest ih =>
    obtain ⟨procedureId, s⟩ := head
    rw [undefinedFrom, ih, List.length_cons, List.range_succ_eq_map, List.flatMap_cons,
      List.flatMap_map]
    simp [reportsOn, List.append_assoc]

theorem undefinedVariable_eq (p : Program) :
    undefinedVariable p = (List.range p.walk.length).flatMap (reportsAt p) := by
  have size : p.located.length = p.walk.length := by rw [← p.map_located, List.length_map]
  have before (k : Nat) : p.globalMemory.keys ++
      (p.located.take k).flatMap (·.2.definedVariables) = p.definedBefore k := by
    rw [Program.definedBefore, ← p.map_located, ← List.map_take, List.flatMap_map]
  rw [undefinedVariable, ← Program.located, undefinedFrom_eq, size]
  simp only [before]
  rfl

theorem distinct_nodup (names : List String) : (distinct names).Nodup := by
  induction names with
  | nil => exact List.nodup_nil
  | cons head rest ih =>
    rw [distinct]
    exact List.nodup_cons.2 ⟨by simp, ih.filter _⟩

theorem reportsOn_nodup (defined : List String) (procedureId : String) (s : Step) :
    (reportsOn defined procedureId s).Nodup := by
  refine List.Pairwise.map _ (fun a b differ same => differ ?_) ((distinct_nodup _).filter _)
  simpa using same

theorem reportsAt_nodup (p : Program) (k : Nat) : (reportsAt p k).Nodup := by
  unfold reportsAt
  split
  · exact reportsOn_nodup _ _ _
  · exact List.nodup_nil

theorem reportsAt_undefined {p : Program} {k : Nat} {d : Diagnostic} (member : d ∈ reportsAt p k) :
    ∃ name, d.problem = .undefinedVariable name ∧ name ∉ p.definedBefore k := by
  unfold reportsAt at member
  split at member
  · obtain ⟨name, used, rfl⟩ := List.mem_map.1 member
    exact ⟨name, rfl, by simpa using (List.mem_filter.1 used).2⟩
  · simp at member

end Validation

end Stepwise
