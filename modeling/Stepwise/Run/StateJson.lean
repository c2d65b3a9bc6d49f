import Stepwise.Run.State
/-!
The state of a run as JSON, and its reading back.
-/

namespace Stepwise

open Json (Decoder Members Piece)

def Json.time : Decoder Timestamp := fun j =>
  match j with
  | .str s =>
    match Timestamp.ofChars? s.toList with
    | some t => .ok t
    | none => .error (.badTime s)
  | j => Json.wrong "an RFC 3339 formatted date and time string" j

def Timestamp.toJson (t : Timestamp) : Json := .str t.toText

def Table.toJson (write : α → Json) (t : Table α) : Json :=
  .obj (t.entries.map fun e => (e.1, write e.2))

def Names.toJson (s : Names) : Json := Json.texts (Table.keys s)

namespace ToolOutput

def toJson (t : ToolOutput) : Json :=
  .obj [("command", .str t.command), ("output", .str t.output), ("timestamp", t.time.toJson)]

def decode : Decoder ToolOutput :=
  Json.record "struct ToolOutput" ["command", "output", "timestamp"] .inArray fun m =>
    mk <$> m.required "command" Json.text <*> m.required "output" Json.text <*>
      m.required "timestamp" Json.time

end ToolOutput

namespace Failure

def toJson (f : Failure) : Json :=
  .obj [("step_id", .str f.stepId), ("kind", .str f.kind.name), ("error", .str f.error),
    ("timestamp", f.time.toJson)]

def decode : Decoder Failure :=
  Json.record "struct ErrorState" ["step_id", "kind", "error", "timestamp"] .inArray fun m =>
    mk <$> m.required "step_id" Json.text <*>
      m.required "kind" (Json.choice (FailureKind.all.map fun k => (k.name, k)) false) <*>
      m.required "error" Json.text <*> m.required "timestamp" Json.time

end Failure

namespace TraceEntry

def optionalMember (name : String) (write : α → Json) : Option α → List (String × Json)
  | some a => [(name, write a)]
  | none => []

def toJson (e : TraceEntry) : Json :=
  .obj ([("step_id", .str e.stepId), ("type", .str e.stepType),
    ("started_at", e.startedAt.toJson), ("completed_at", e.completedAt.toJson),
    ("duration_ms", .nat e.durationMs), ("success", .bool e.success)] ++
    optionalMember "output" id e.output ++ optionalMember "error" .str e.error)

def fields : List String :=
  ["step_id", "type", "started_at", "completed_at", "duration_ms", "success", "output", "error"]

def decode : Decoder TraceEntry :=
  Json.record "struct HistoryEntry" fields .inArray fun m =>
    mk <$> m.required "step_id" Json.text <*> m.required "type" Json.text <*>
      m.required "started_at" Json.time <*> m.required "completed_at" Json.time <*>
      m.required "duration_ms" Json.wide <*> m.required "success" Json.flag <*>
      m.nullable "output" Json.free <*>
      m.nullable "error" Json.text

end TraceEntry

namespace RunState

def toJson (s : RunState) : Json :=
  .obj [("status", .str s.status.name), ("current_step", Json.ofOption Cursor.toJson s.current),
    ("frame", s.vars.frame.toJson .str),
    ("heap", .obj [("tool_outputs", s.vars.toolOutputs.toJson ToolOutput.toJson)]),
    ("memory", .obj [("persistent_vars", s.vars.memory.toJson .str)]),
    ("execution_history", .arr (s.history.map TraceEntry.toJson)),
    ("breakpoints", Names.toJson s.breakpoints),
    ("error_state", Json.ofOption Failure.toJson s.failure),
    ("steps_executed", .nat s.stepsExecuted)]

def fields : List String :=
  ["status", "current_step", "frame", "heap", "memory", "execution_history", "breakpoints",
    "error_state", "steps_executed"]

def ofParts (status : Status) (current : Option Cursor) (frame : Table String)
    (toolOutputs : Table ToolOutput) (memory : Table String) (history : List TraceEntry)
    (breakpoints : List String) (failure : Option Failure) (stepsExecuted : Nat) : RunState :=
  ⟨status, current, ⟨frame, memory, toolOutputs⟩, history, Names.ofNames breakpoints, failure,
    stepsExecuted⟩

def decodeHeap : Decoder (Table ToolOutput) :=
  Json.record "struct Heap" ["tool_outputs"] .inArray
    (·.required "tool_outputs" (Json.tableOf ToolOutput.decode))

def decodeMemory : Decoder (Table String) :=
  Json.record "struct Memory" ["persistent_vars"] .inArray
    (·.required "persistent_vars" (Json.tableOf Json.text))

def decode : Decoder RunState :=
  Json.record "struct ExecutionState" fields .inArray fun m =>
    ofParts <$> m.required "status" (Json.choice (Status.all.map fun s => (s.name, s)) false) <*>
      m.nullable "current_step" Cursor.decode <*>
      m.required "frame" (Json.tableOf Json.text) <*> m.required "heap" decodeHeap <*>
      m.required "memory" decodeMemory <*>
      m.required "execution_history" (Json.listOf TraceEntry.decode) <*>
      m.required "breakpoints" (Json.listOf Json.text) <*>
      m.nullable "error_state" Failure.decode <*>
      m.required "steps_executed" Json.wide

end RunState

end Stepwise
