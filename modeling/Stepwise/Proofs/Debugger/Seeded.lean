import Stepwise.Program.Json
import Stepwise.Proofs.Debugger.Environment
import Stepwise.Proofs.Debugger.ValueType
import Stepwise.Proofs.Run.Spelling
/-!
What is told of the variables that a program begins with, in a run that is new or has just been
reset: they are in persistent memory, and whatever is neither a text nor nothing looks like what it
is in the program.
-/

namespace Stepwise

open Json (HeldIn Piece Yields depthLimit)
open Template (IsName tokenSpellings)

namespace Program

theorem decode_memory {Q : Json → Prop} (inherited : Json.Inherited Q) :
    Yields Q decode fun p => ∀ e ∈ p.globalMemory.entries, Q e.2 := by
  refine Yields.record inherited fun m held p read => ?_
  obtain ⟨_, errorHandling, read₁, -, rfl⟩ := Piece.seq_eq_ok.1 read
  obtain ⟨_, globalMemory, read₂, memory, rfl⟩ := Piece.seq_eq_ok.1 read₁
  obtain ⟨_, executionOrder, read₃, -, rfl⟩ := Piece.seq_eq_ok.1 read₂
  obtain ⟨_, procedures, read₄, -, rfl⟩ := Piece.seq_eq_ok.1 read₃
  obtain ⟨_, tools, read₅, -, rfl⟩ := Piece.seq_eq_ok.1 read₄
  obtain ⟨name, -, rfl⟩ := Piece.map_eq_ok.1 read₅
  exact (Yields.freeTable inherited).optional (by simp [Table.empty]) held memory

theorem memory_heldIn {text : String} {p : Program} (read : ofText? text = some p) {name : String}
    {j : Json} (seeded : p.globalMemory.get? name = some j) : HeldIn depthLimit j := by
  obtain ⟨v, spelled, decoded⟩ := Option.bind_eq_some_iff.1 read
  have made : decode v = .ok p := by
    cases same : decode v with
    | error cause =>
      rw [same] at decoded
      exact nomatch decoded
    | ok q =>
      rw [same] at decoded
      cases decoded
      rfl
  exact decode_memory (Json.inherited_heldIn depthLimit) v p (Json.heldIn_of_shapedText? spelled)
    made (name, j) (Table.get?_iff_mem.1 seeded)

end Program

namespace Debugger

variable {σ : Type} {h : Host σ} {p : Program} {d : Debugger}

theorem Journaled.reset {past : List Turn} (told : Journaled p d past) (ops : List Operation)
    (world : σ) : Journaled p (d.operateAll h (ops ++ [.command .reset]) world).1 [] := by
  induction ops generalizing d past world with
  | nil => exact told.operates (operate_cases h (.command .reset) d world)
  | cons op rest ih => exact ih (told.operates (operate_cases h op d world)) _

theorem Journaled.lookup_seeded (told : Journaled p d []) {name : String} {j : Json}
    (seeded : p.globalMemory.get? name = some j) :
    d.state.vars.lookup name = (some j.variableText, .persistentMemory) := by
  have memory : (RunState.initial p).vars.memory.get? name = some j.variableText := by
    rw [RunState.initial, Table.get?_map, seeded, Option.map_some]
  have frame : (RunState.initial p).vars.frame.get? name = none := Table.get?_empty name
  rw [told.vars, List.flatMap_nil]
  change (RunState.initial p).vars.lookup name = _
  rw [Variables.lookup, Variables.find?, frame, memory]

end Debugger

/-- In a run that is new or has just been reset, inspecting a variable that the program begins with
tells its text and its type. -/
theorem seeded_kinds_kept {σ : Type} (h : Host σ) {text : String} {p : Program}
    (read : Program.ofText? text = some p) {name : String} {j : Json}
    (seeded : p.globalMemory.get? name = some j) (isName : IsName name.toList)
    (analysis : Option Analysis) (options : Options) (maxSteps : Nat) (ops : List Operation)
    (world : σ) :
    let fresh := Debugger.start p analysis options maxSteps
    let reset := (fresh.operateAll h (ops ++ [.command .reset]) world).1
    ∀ d ∈ [fresh, reset], ∀ cs ∈ name.toList :: tokenSpellings name.toList, ∀ spelling,
      Text.Around cs spelling → ∀ world, ∃ i,
        (d.execute h (.inspect spelling) world).1.1.inspection = some i ∧
        i.Tells name (some j.variableText) .persistentMemory ∧
        ∀ type ∈ j.valueType?, i.valueType = type := by
  intro fresh reset d among cs spelled spelling around world
  have begun : Debugger.Journaled p fresh [] := .start analysis options maxSteps
  have told : Debugger.Journaled p d [] := by
    simp only [List.mem_cons, List.not_mem_nil, or_false] at among
    rcases among with rfl | rfl
    · exact begun
    · exact begun.reset ops _
  have found := told.lookup_seeded seeded
  have tells := Variables.inspect_spelled (v := d.state.vars) isName spelled around
  rw [found] at tells
  refine ⟨_, rfl, tells, fun type typed => ?_⟩
  have own := Variables.inspectedName_spelled isName spelled around
  rw [Variables.inspect, own, found]
  exact ValueType.infer_variableText (Program.memory_heldIn read seeded) type typed

def limitsText : String :=
  "\x7b\"name\":\"n\",\"procedures\":[],\"global_memory\":\x7b\"limits\":\x7b\"d\":[\"]\",2.50]\x7d," ++
    "\"hosts\":[\x7b\x7d],\"verbose\":true,\"retries\":-3\x7d\x7d"

def limitsTypes : List (String × ValueType) :=
  [("limits", .object), ("hosts", .array), ("verbose", .boolean), ("retries", .number)]

theorem limits_kinds_kept :
    ∃ p, Program.ofText? limitsText = some p ∧
      let reset := ((Debugger.start p none .standard 9).operateAll .echoing
        [.command .stepOver, .command .reset] 0).1
      ∀ e ∈ limitsTypes, ∃ i,
        (reset.execute .echoing (.inspect e.1) 0).1.1.inspection = some i ∧
          i.source = .persistentMemory ∧ i.valueType = e.2 := by
  have held : ((Program.ofText? limitsText).map fun p => limitsTypes.all fun e =>
      (p.globalMemory.get? e.1).bind Json.valueType? == some e.2) = some true := by decide +kernel
  obtain ⟨p, read, all⟩ := Option.map_eq_some_iff.1 held
  refine ⟨p, read, ?_⟩
  intro reset e among
  have isName : IsName e.1.toList := by
    simp only [limitsTypes, List.mem_cons, List.not_mem_nil, or_false] at among
    rcases among with rfl | rfl | rfl | rfl
    · exact ⟨'l', ['i', 'm', 'i', 't', 's'], by decide, by decide, by decide⟩
    · exact ⟨'h', ['o', 's', 't', 's'], by decide, by decide, by decide⟩
    · exact ⟨'v', ['e', 'r', 'b', 'o', 's', 'e'], by decide, by decide, by decide⟩
    · exact ⟨'r', ['e', 't', 'r', 'i', 'e', 's'], by decide, by decide, by decide⟩
  obtain ⟨j, seeded, typed⟩ :=
    Option.bind_eq_some_iff.1 (beq_iff_eq.1 (List.all_eq_true.1 all e among))
  have around : Text.Around e.1.toList e.1 := ⟨[], [], rfl, rfl, by simp⟩
  obtain ⟨i, inspected, tells, kept⟩ :=
    seeded_kinds_kept .echoing read seeded isName none .standard 9 [.command .stepOver] 0 reset
      (List.mem_cons_of_mem _ List.mem_cons_self) e.1.toList List.mem_cons_self e.1 around 0
  exact ⟨i, inspected, tells.sameSource, kept e.2 typed⟩

end Stepwise
