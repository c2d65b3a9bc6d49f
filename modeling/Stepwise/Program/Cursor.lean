import Stepwise.Program.Basic
import Stepwise.Json.Decode
/-!
The place of a run in a program. Slots are the places of the running order, so a procedure that is
listed twice is visited twice; empty slots are passed over. `instructionPointer` counts the steps
of the whole walk and `stepIndex` those of the slot.
-/

namespace Stepwise

structure Cursor where
  procedureId : String
  stepId : String
  stepIndex : Nat
  instructionPointer : Nat
  orderIndex : Nat
  deriving DecidableEq, Repr

namespace Cursor

/-- The first step in a list of slots, the first of which has the given place. -/
def ofSlots (orderIndex instructionPointer : Nat) : List Procedure → Option Cursor
  | [] => none
  | q :: rest =>
    match q.steps with
    | s :: _ => some ⟨q.id, s.id, 0, instructionPointer, orderIndex⟩
    | [] => ofSlots (orderIndex + 1) instructionPointer rest

def first (p : Program) : Option Cursor := ofSlots 0 0 p.slots

/-- The place after a cursor whose slot holds the procedure that it names. -/
def next (p : Program) (c : Cursor) : Option Cursor :=
  match p.slots.drop c.orderIndex with
  | [] => none
  | q :: later =>
    if q.id = c.procedureId then
      match q.steps[c.stepIndex + 1]? with
      | some s => some ⟨q.id, s.id, c.stepIndex + 1, c.instructionPointer + 1, c.orderIndex⟩
      | none => ofSlots (c.orderIndex + 1) (c.instructionPointer + 1) later
    else none

/-- The step at a cursor: procedures are looked up by id, and the step must have the id named. -/
def step? (p : Program) (c : Cursor) : Option Step :=
  (p.procedure? c.procedureId).bind fun q =>
    (q.steps[c.stepIndex]?).bind fun s => if s.id = c.stepId then some s else none

def walkFrom (p : Program) : Nat → Option Cursor → List Cursor
  | fuel + 1, some c => c :: walkFrom p fuel (c.next p)
  | _, _ => []

def walk (p : Program) : List Cursor := walkFrom p p.stepCount (first p)

def toJson (c : Cursor) : Json :=
  .obj [("procedure_id", .str c.procedureId), ("step_id", .str c.stepId),
    ("step_index", .nat c.stepIndex), ("instruction_pointer", .nat c.instructionPointer),
    ("order_index", .nat c.orderIndex)]

def decode : Json.Decoder Cursor :=
  Json.record "struct Cursor"
    ["procedure_id", "step_id", "step_index", "instruction_pointer", "order_index"] .inArray
    fun m =>
      mk <$> m.required "procedure_id" Json.text <*> m.required "step_id" Json.text <*>
        m.required "step_index" Json.size <*> m.required "instruction_pointer" Json.size <*>
        m.optional "order_index" Json.size 0

end Cursor

end Stepwise
