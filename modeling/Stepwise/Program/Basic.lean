import Stepwise.Json.Basic
import Stepwise.Table
import Stepwise.Text.Blank
/-!
Programs: procedures of typed steps, run in a given order. A procedure may be listed in the order
more than once and then runs more than once.
-/

namespace Stepwise

inductive NoteLevel where
  | info
  | warning
  | error
  deriving DecidableEq, Repr

def NoteLevel.name : NoteLevel → String
  | info => "info"
  | warning => "warning"
  | error => "error"

inductive Condition where
  | equality (operand value : String)
  | contains (operand value : String)
  | boolean (expression : String)
  deriving DecidableEq

/-- What a branch or an option does. -/
inductive Action where
  | command (tool line : String) (assignTo : Option String)
  | log (message : String) (level : NoteLevel)
  deriving DecidableEq

structure ChoiceOption where
  description : String
  action : Action
  deriving DecidableEq

inductive StepKind where
  | command (tool line : String) (parameters : Table Json) (assignTo : Option String)
  | conditional (condition : Condition) (onTrue onFalse : Option Action)
  /-- `name` is the key under which persistent memory is written. -/
  | assignment (assignTo value : String) (name : Option String)
  | choice (options : List ChoiceOption)
  | analysis (input extract : List String)
  | note (level : NoteLevel) (message : String)

structure Step where
  id : String
  description : String
  kind : StepKind

structure Procedure where
  id : String
  name : String
  steps : List Step

structure ErrorHandling where
  onToolError : String
  onConditionError : String
  timeout : Option Nat
  deriving DecidableEq

structure Program where
  name : String
  tools : List String
  procedures : List Procedure
  executionOrder : List String
  globalMemory : Table Json
  errorHandling : ErrorHandling

def ErrorHandling.standard : ErrorHandling := ⟨"stop", "stop", none⟩

namespace StepKind

def typeName : StepKind → String
  | command .. => "command"
  | conditional .. => "conditional"
  | assignment .. => "assignment"
  | choice .. => "choice"
  | analysis .. => "analysis"
  | note .. => "note"

end StepKind

def Action.assignTo : Action → Option String
  | .command _ _ target => target
  | .log .. => none

def isMemoryTarget (target : String) : Bool := target == "memory" || target == "global"

namespace Step

/-- The key that an assignment to persistent memory writes. -/
def memoryKey (s : Step) : String :=
  match s.kind with
  | .assignment _ _ (some name) => if Text.isBlankText name then s.id else name
  | _ => s.id

def actions (s : Step) : List Action :=
  match s.kind with
  | .conditional _ onTrue onFalse => onTrue.toList ++ onFalse.toList
  | .choice options => options.map (·.action)
  | _ => []

def actionTargets (s : Step) : List String := s.actions.filterMap (·.assignTo)

def definedVariables (s : Step) : List String :=
  match s.kind with
  | .command _ _ _ target => target.toList
  | .assignment target _ _ => if isMemoryTarget target then [s.memoryKey] else [target]
  | .conditional .. | .choice _ => s.actionTargets
  | .analysis .. | .note .. => []

end Step

namespace Program

def procedure? (p : Program) (id : String) : Option Procedure := p.procedures.find? (·.id == id)

/-- The procedures in the order in which they run, those unknown left out. An empty order is the
order of declaration. -/
def slots (p : Program) : List Procedure :=
  if p.executionOrder.isEmpty then p.procedures else p.executionOrder.filterMap p.procedure?

def walk (p : Program) : List Step := p.slots.flatMap (·.steps)

def stepCount (p : Program) : Nat := (p.slots.flatMap (·.steps)).length

def findStep? (p : Program) (id : String) : Option (Procedure × Step) :=
  p.procedures.findSome? fun q => (q.steps.find? (·.id == id)).map fun s => (q, s)

end Program

end Stepwise
