import Stepwise.Program.Cursor
import Stepwise.Template
import Stepwise.Json.Printer
import Stepwise.Time
/-!
The state of a run: where it stands, its three tiers of variables, what has been evaluated so far
and what stopped it. A name is looked up in the frame, then in persistent memory, then among the
outputs of commands.
-/

namespace Stepwise

inductive Status where
  | initialized
  | running
  | paused
  | completed
  | error
  deriving DecidableEq, Repr

namespace Status

def all : List Status := [initialized, running, paused, completed, error]

def name : Status → String
  | initialized => "initialized"
  | running => "running"
  | paused => "paused"
  | completed => "completed"
  | error => "error"

def isFinal : Status → Bool
  | completed | error => true
  | _ => false

end Status

structure ToolOutput where
  command : String
  output : String
  time : Timestamp
  deriving DecidableEq, Repr

structure Variables where
  frame : Table String
  memory : Table String
  toolOutputs : Table ToolOutput

inductive VariableSource where
  | localVariable
  | persistentMemory
  | toolOutput
  | unknown
  deriving DecidableEq, Repr

def VariableSource.name : VariableSource → String
  | localVariable => "local_variable"
  | persistentMemory => "persistent_memory"
  | toolOutput => "tool_output"
  | unknown => "unknown"

namespace Variables

def find? (v : Variables) (name : String) : Option (String × VariableSource) :=
  match v.frame.get? name with
  | some value => some (value, .localVariable)
  | none =>
    match v.memory.get? name with
    | some value => some (value, .persistentMemory)
    | none => (v.toolOutputs.get? name).map fun t => (t.output, .toolOutput)

def value? (v : Variables) (name : String) : Option String := (v.find? name).map (·.1)

def lookup (v : Variables) (name : String) : Option String × VariableSource :=
  match v.find? name with
  | some (value, source) => (some value, source)
  | none => (none, .unknown)

def fill (v : Variables) (template : String) : String := fillTemplate v.value? template

/-- The name of a template that is one token and nothing else, blanks around it aside. -/
def soleToken? (template : String) : Option String :=
  match Template.scan (Text.trimChars template.toList) with
  | [.token name _] => some (String.ofList name)
  | _ => none

end Variables

inductive FailureKind where
  | riskBlocked
  | execution
  | stepLimit
  deriving DecidableEq, Repr

namespace FailureKind

def all : List FailureKind := [riskBlocked, execution, stepLimit]

def name : FailureKind → String
  | riskBlocked => "risk_blocked"
  | execution => "execution"
  | stepLimit => "step_limit"

end FailureKind

structure Failure where
  stepId : String
  kind : FailureKind
  error : String
  time : Timestamp
  deriving DecidableEq, Repr

structure TraceEntry where
  stepId : String
  stepType : String
  startedAt : Timestamp
  completedAt : Timestamp
  durationMs : Nat
  success : Bool
  output : Option Json
  error : Option String

structure RunState where
  status : Status
  /-- The step to be evaluated next; none once every step has been. -/
  current : Option Cursor
  vars : Variables
  history : List TraceEntry
  breakpoints : Names
  failure : Option Failure
  stepsExecuted : Nat

def Json.variableText : Json → String
  | .str s => s
  | .null => ""
  | j => j.compact

namespace RunState

def initial (p : Program) : RunState where
  status := .initialized
  current := Cursor.first p
  vars := ⟨∅, p.globalMemory.map Json.variableText, ∅⟩
  history := []
  breakpoints := ∅
  failure := none
  stepsExecuted := 0

def fail (s : RunState) (stepId : String) (kind : FailureKind) (error : String) (time : Timestamp) :
    RunState :=
  { s with status := .error, failure := some ⟨stepId, kind, error, time⟩ }

end RunState

end Stepwise
