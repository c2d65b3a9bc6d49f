import Stepwise.Run.StateJson
import Stepwise.Proofs.Json.InOrder
import Stepwise.Proofs.Time.Text
/-!
States of runs written and read back. An output that is null is not told from one that is not
there, and a time is written as a date of the calendar; a state without such an output and with
times of the calendar is found again in what is written of it, and every state that is read is one.
-/

namespace Stepwise

open Json (Arranges Inherited Members Piece Spelt Yields)

variable {f : Json → Json}

theorem Timestamp.decode_written (arranges : Arranges f) {t : Timestamp} (within : t.InCalendar) :
    Json.time (f t.toJson) = .ok t := by
  rw [toJson, arranges.str, Json.time, toText, String.toList_ofList, ofChars?_chars within]

theorem Timestamp.yields {Q : Json → Prop} : Yields Q Json.time InCalendar := by
  intro j t _ read
  cases j with
  | str s =>
    unfold Json.time at read
    dsimp only at read
    split at read
    · next found =>
      cases read
      exact ofChars?_inCalendar _ _ found
    · cases read
  | _ => cases read

theorem Names.ofNames_keys (s : Names) : ofNames (Table.keys s) = s := by
  have same : ofNames (Table.keys s) = Table.ofList s.entries := by
    simp [ofNames, Table.keys, Table.ofList, List.foldl_map, Names.insert]
  rw [same, Table.ofList_entries]

theorem Cursor.decode_written (arranges : Arranges f) (c : Cursor) :
    decode (f c.toJson) = .ok c := by
  obtain ⟨items, written, spelt⟩ := arranges.spelt
    [("procedure_id", .str c.procedureId), ("step_id", .str c.stepId),
      ("step_index", .nat c.stepIndex), ("instruction_pointer", .nat c.instructionPointer),
      ("order_index", .nat c.orderIndex)] (by simp)
  rw [toJson, written]
  simp only [decode, Json.record, Json.fromMembers]
  rw [spelt.required "procedure_id" (by simp) (arranges.text c.procedureId),
    spelt.required "step_id" (by simp) (arranges.text c.stepId),
    spelt.required "step_index" (by simp) (arranges.size c.stepIndex),
    spelt.required "instruction_pointer" (by simp) (arranges.size c.instructionPointer),
    spelt.optional "order_index" (by simp) (arranges.size c.orderIndex)]
  rfl

namespace ToolOutput

theorem decode_written (arranges : Arranges f) {t : ToolOutput} (within : t.time.InCalendar) :
    decode (f t.toJson) = .ok t := by
  obtain ⟨items, written, spelt⟩ := arranges.spelt
    [("command", .str t.command), ("output", .str t.output), ("timestamp", t.time.toJson)] (by simp)
  rw [toJson, written]
  simp only [decode, Json.record, Json.fromMembers]
  rw [spelt.required "command" (by simp) (arranges.text t.command),
    spelt.required "output" (by simp) (arranges.text t.output),
    spelt.required "timestamp" (by simp) (Timestamp.decode_written arranges within)]
  rfl

theorem yields {Q : Json → Prop} (inherited : Inherited Q) :
    Yields Q decode fun t => t.time.InCalendar := by
  refine Yields.record inherited fun m held t read => ?_
  obtain ⟨_, time, read₁, found, rfl⟩ := Piece.seq_eq_ok.1 read
  obtain ⟨_, output, read₂, _, rfl⟩ := Piece.seq_eq_ok.1 read₁
  obtain ⟨command, _, rfl⟩ := Piece.map_eq_ok.1 read₂
  exact Timestamp.yields.required held found

end ToolOutput

namespace Failure

theorem decode_written (arranges : Arranges f) {e : Failure} (within : e.time.InCalendar) :
    decode (f e.toJson) = .ok e := by
  have kind : (FailureKind.all.map fun k => (k.name, k)).lookup e.kind.name = some e.kind := by
    cases e.kind <;> rfl
  obtain ⟨items, written, spelt⟩ := arranges.spelt
    [("step_id", .str e.stepId), ("kind", .str e.kind.name), ("error", .str e.error),
      ("timestamp", e.time.toJson)] (by simp)
  rw [toJson, written]
  simp only [decode, Json.record, Json.fromMembers]
  rw [spelt.required "step_id" (by simp) (arranges.text e.stepId),
    spelt.required "kind" (by simp) (arranges.choice kind),
    spelt.required "error" (by simp) (arranges.text e.error),
    spelt.required "timestamp" (by simp) (Timestamp.decode_written arranges within)]
  rfl

theorem yields {Q : Json → Prop} (inherited : Inherited Q) :
    Yields Q decode fun e => e.time.InCalendar := by
  refine Yields.record inherited fun m held e read => ?_
  obtain ⟨_, time, read₁, found, rfl⟩ := Piece.seq_eq_ok.1 read
  obtain ⟨_, error, read₂, _, rfl⟩ := Piece.seq_eq_ok.1 read₁
  obtain ⟨_, kind, read₃, _, rfl⟩ := Piece.seq_eq_ok.1 read₂
  obtain ⟨stepId, _, rfl⟩ := Piece.map_eq_ok.1 read₃
  exact Timestamp.yields.required held found

end Failure

namespace TraceEntry

/-- An entry that can be told from what is written of it, where values with some property are
written as they are. -/
structure Legible (Q : Json → Prop) (e : TraceEntry) : Prop where
  startedAt : e.startedAt.InCalendar
  completedAt : e.completedAt.InCalendar
  output : ∀ j ∈ e.output, j ≠ .null ∧ Q j

theorem Legible.unsorted {Q : Json → Prop} {e : TraceEntry} (legible : e.Legible Q) :
    e.Legible fun j => id j = j where
  startedAt := legible.startedAt
  completedAt := legible.completedAt
  output j there := ⟨(legible.output j there).1, rfl⟩

theorem mem_optionalMember {name : String} {write : α → Json} {o : Option α} {a : α}
    (there : a ∈ o) : (name, write a) ∈ optionalMember name write o := by
  cases there
  exact List.mem_singleton_self _

theorem decode_written (arranges : Arranges f) {e : TraceEntry}
    (legible : e.Legible fun j => f j = j) : decode (f e.toJson) = .ok e := by
  have output (j : Json) (there : j ∈ e.output) : Json.orNull Json.free (f j) = .ok (some j) := by
    obtain ⟨something, same⟩ := legible.output j there
    rw [same, Json.orNull]
    · rfl
    · exact something
  have error (s : String) : Json.orNull Json.text (f (.str s)) = .ok (some s) :=
    arranges.textOrNull (some s)
  obtain ⟨items, written, spelt⟩ := arranges.spelt
    ([("step_id", .str e.stepId), ("type", .str e.stepType),
      ("started_at", e.startedAt.toJson), ("completed_at", e.completedAt.toJson),
      ("duration_ms", .nat e.durationMs), ("success", .bool e.success)] ++
      optionalMember "output" id e.output ++ optionalMember "error" .str e.error)
    (by cases e.output <;> cases e.error <;> simp [optionalMember])
  have started := Timestamp.decode_written arranges legible.startedAt
  have completed := Timestamp.decode_written arranges legible.completedAt
  rw [toJson, written]
  simp only [decode, Json.record, Json.fromMembers, Members.nullable, Bool.false_eq_true, if_false]
  rw [spelt.required "step_id" (by simp) (arranges.text e.stepId),
    spelt.required "type" (by simp) (arranges.text e.stepType),
    spelt.required "started_at" (by simp) started,
    spelt.required "completed_at" (by simp) completed,
    spelt.required "duration_ms" (by simp) (arranges.wide e.durationMs),
    spelt.required "success" (by simp) (arranges.flag e.success),
    spelt.whereThere "output"
      (fun j there => List.mem_append_left _ (List.mem_append_right _ (mem_optionalMember there)))
      (fun none => by cases e.error <;> simp [optionalMember, none]) output,
    spelt.whereThere "error"
      (fun s there => List.mem_append_right _ (mem_optionalMember there))
      (fun none => by cases e.output <;> simp [optionalMember, none]) fun s _ => error s]
  rfl

theorem yields {Q : Json → Prop} (inherited : Inherited Q) : Yields Q decode (Legible Q) := by
  refine Yields.record inherited fun m held e read => ?_
  obtain ⟨_, error, read₁, _, rfl⟩ := Piece.seq_eq_ok.1 read
  obtain ⟨_, output, read₂, outputFound, rfl⟩ := Piece.seq_eq_ok.1 read₁
  obtain ⟨_, success, read₃, _, rfl⟩ := Piece.seq_eq_ok.1 read₂
  obtain ⟨_, durationMs, read₄, _, rfl⟩ := Piece.seq_eq_ok.1 read₃
  obtain ⟨_, completedAt, read₅, completedFound, rfl⟩ := Piece.seq_eq_ok.1 read₄
  obtain ⟨_, startedAt, read₆, startedFound, rfl⟩ := Piece.seq_eq_ok.1 read₅
  obtain ⟨_, stepType, read₇, _, rfl⟩ := Piece.seq_eq_ok.1 read₆
  obtain ⟨stepId, _, rfl⟩ := Piece.map_eq_ok.1 read₇
  exact ⟨Timestamp.yields.required held startedFound,
    Timestamp.yields.required held completedFound,
    Yields.freeOrNull.nullable (by simp) held outputFound⟩

end TraceEntry

namespace RunState

structure Legible (Q : Json → Prop) (s : RunState) : Prop where
  history : ∀ e ∈ s.history, e.Legible Q
  toolOutputs : ∀ t ∈ s.vars.toolOutputs.entries, t.2.time.InCalendar
  failure : ∀ e ∈ s.failure, e.time.InCalendar

variable {s : RunState}

theorem Legible.unsorted {Q : Json → Prop} (legible : s.Legible Q) :
    s.Legible fun j => id j = j where
  history e member := (legible.history e member).unsorted
  toolOutputs := legible.toolOutputs
  failure := legible.failure

theorem decodeHeap_written (arranges : Arranges f) {t : Table ToolOutput}
    (within : ∀ e ∈ t.entries, e.2.time.InCalendar) :
    decodeHeap (f (.obj [("tool_outputs", t.toJson ToolOutput.toJson)])) = .ok t := by
  obtain ⟨items, written, spelt⟩ := arranges.spelt
    [("tool_outputs", t.toJson ToolOutput.toJson)] (by simp)
  have read : Json.tableOf ToolOutput.decode (f (t.toJson ToolOutput.toJson)) = .ok t :=
    arranges.tableOf fun e member => ToolOutput.decode_written arranges (within e member)
  rw [written]
  simp only [decodeHeap, Json.record, Json.fromMembers]
  rw [spelt.required "tool_outputs" (by simp) read]
  rfl

theorem textTable_written (arranges : Arranges f) (t : Table String) :
    Json.tableOf Json.text (f (t.toJson .str)) = .ok t :=
  arranges.tableOf fun e _ => arranges.text e.2

theorem decodeMemory_written (arranges : Arranges f) (t : Table String) :
    decodeMemory (f (.obj [("persistent_vars", t.toJson .str)])) = .ok t := by
  obtain ⟨items, written, spelt⟩ := arranges.spelt
    [("persistent_vars", t.toJson Json.str)] (by simp)
  rw [written]
  simp only [decodeMemory, Json.record, Json.fromMembers]
  rw [spelt.required "persistent_vars" (by simp) (textTable_written arranges t)]
  rfl

theorem decode_written (arranges : Arranges f) (legible : s.Legible fun j => f j = j) :
    decode (f s.toJson) = .ok s := by
  have status : (Status.all.map fun s => (s.name, s)).lookup s.status.name = some s.status := by
    cases s.status <;> rfl
  have current : Json.orNull Cursor.decode (f (Json.ofOption Cursor.toJson s.current)) =
      .ok s.current :=
    arranges.orNull (by simp [Cursor.decode, Json.record, Json.wrong]) fun c _ =>
      c.decode_written arranges
  have failure : Json.orNull Failure.decode (f (Json.ofOption Failure.toJson s.failure)) =
      .ok s.failure :=
    arranges.orNull (by simp [Failure.decode, Json.record, Json.wrong]) fun e there =>
      Failure.decode_written arranges (legible.failure e there)
  have history : Json.listOf TraceEntry.decode (f (.arr (s.history.map TraceEntry.toJson))) =
      .ok (s.history.map id) :=
    arranges.listOf fun e member => TraceEntry.decode_written arranges (legible.history e member)
  have breakpoints : Json.listOf Json.text (f (Names.toJson s.breakpoints)) =
      .ok (Table.keys s.breakpoints) := arranges.texts _
  obtain ⟨items, written, spelt⟩ := arranges.spelt
    [("status", .str s.status.name), ("current_step", Json.ofOption Cursor.toJson s.current),
      ("frame", s.vars.frame.toJson .str),
      ("heap", .obj [("tool_outputs", s.vars.toolOutputs.toJson ToolOutput.toJson)]),
      ("memory", .obj [("persistent_vars", s.vars.memory.toJson .str)]),
      ("execution_history", .arr (s.history.map TraceEntry.toJson)),
      ("breakpoints", Names.toJson s.breakpoints),
      ("error_state", Json.ofOption Failure.toJson s.failure),
      ("steps_executed", .nat s.stepsExecuted)] (by simp)
  rw [toJson, written]
  simp only [decode, Json.record, Json.fromMembers, Members.nullable, Bool.false_eq_true, if_false]
  rw [spelt.required "status" (by simp) (arranges.choice status),
    spelt.optional "current_step" (by simp) current,
    spelt.required "frame" (by simp) (textTable_written arranges s.vars.frame),
    spelt.required "heap" (by simp) (decodeHeap_written arranges legible.toolOutputs),
    spelt.required "memory" (by simp) (decodeMemory_written arranges s.vars.memory),
    spelt.required "execution_history" (by simp) history,
    spelt.required "breakpoints" (by simp) breakpoints,
    spelt.optional "error_state" (by simp) failure,
    spelt.required "steps_executed" (by simp) (arranges.wide s.stepsExecuted), List.map_id]
  simp only [Piece.map_ok, Piece.seq_ok, Piece.toExcept, ofParts, Names.ofNames_keys]

theorem yields {Q : Json → Prop} (inherited : Inherited Q) : Yields Q decode (Legible Q) := by
  have heap : Yields Q decodeHeap fun t => ∀ e ∈ t.entries, e.2.time.InCalendar :=
    Yields.record inherited fun m held t found =>
      ((ToolOutput.yields inherited).tableOf inherited).required held found
  refine Yields.record inherited fun m held s read => ?_
  obtain ⟨_, stepsExecuted, read₁, _, rfl⟩ := Piece.seq_eq_ok.1 read
  obtain ⟨_, failure, read₂, failureFound, rfl⟩ := Piece.seq_eq_ok.1 read₁
  obtain ⟨_, breakpoints, read₃, _, rfl⟩ := Piece.seq_eq_ok.1 read₂
  obtain ⟨_, history, read₄, historyFound, rfl⟩ := Piece.seq_eq_ok.1 read₃
  obtain ⟨_, memory, read₅, _, rfl⟩ := Piece.seq_eq_ok.1 read₄
  obtain ⟨_, toolOutputs, read₆, heapFound, rfl⟩ := Piece.seq_eq_ok.1 read₅
  obtain ⟨_, frame, read₇, _, rfl⟩ := Piece.seq_eq_ok.1 read₆
  obtain ⟨_, current, read₈, _, rfl⟩ := Piece.seq_eq_ok.1 read₇
  obtain ⟨status, _, rfl⟩ := Piece.map_eq_ok.1 read₈
  exact ⟨((TraceEntry.yields inherited).listOf inherited).required held historyFound,
    heap.required held heapFound,
    (Failure.yields inherited).orNull.nullable (by simp) held failureFound⟩

theorem decode_again {v : Json} (read : decode v = .ok s) :
    decode s.toJson = .ok s ∧ (v.InOrder → decode s.toJson.sorted = .ok s) :=
  ⟨decode_written Json.arranges_id (yields Json.inherited_id v s rfl read), fun inOrder =>
    decode_written Json.arranges_sorted (yields Json.inherited_inOrder v s inOrder read)⟩

end RunState

end Stepwise
