import Stepwise.Json.Decode
import Stepwise.Options
import Stepwise.Program.Validation
/-!
Why a request is refused. A refused request fails as a whole, unlike a step that fails, whose
failure is part of the run.
-/

namespace Stepwise

inductive Refusal where
  | unknownRiskLevel (text : String)
  | timeoutOutOfRange (ms : Nat)
  | noMemoryLimit
  | malformedProgram (cause : DecodeError)
  | invalidProgram (errors : List Diagnostic)
  | missingParameter (command key : String)
  | unknownCommand (name : String)
  | unknownStep (id : String)
  | capacity (max : Nat)
  | notFound (sessionId : String)

namespace Refusal

inductive Kind where
  | validation
  | capacity
  | notFound
  deriving DecidableEq, Repr

def kind : Refusal → Kind
  | capacity _ => .capacity
  | notFound _ => .notFound
  | _ => .validation

def reason : Refusal → String
  | unknownRiskLevel text =>
    "Invalid risk level: " ++ text ++ ". Must be one of: low, medium, high"
  | timeoutOutOfRange ms =>
    "timeout_ms must be between " ++ toString Options.leastTimeout ++ " and " ++
      toString Options.greatestTimeout ++ ", got " ++ toString ms
  | noMemoryLimit => "memory_limit_bytes must be greater than zero"
  | malformedProgram cause => "Malformed program: " ++ cause.message
  | invalidProgram errors => "; ".intercalate (errors.map (·.describe))
  | missingParameter command key => "'" ++ command ++ "' requires a '" ++ key ++ "' parameter"
  | unknownCommand name => "Unknown debug command: " ++ name
  | unknownStep id => "Unknown step id: " ++ id
  | capacity max => toString max ++ " active sessions"
  | notFound sessionId => sessionId

def message (r : Refusal) : String :=
  match r.kind with
  | .validation => "Validation error: " ++ r.reason
  | .capacity => "Session limit reached: " ++ r.reason
  | .notFound => "Session not found: " ++ r.reason

end Refusal

def RiskLevel.ofText (s : String) : Except Refusal RiskLevel :=
  match ofName? (Text.lower s) with
  | some level => .ok level
  | none => .error (.unknownRiskLevel (Text.lower s))

def Options.check (o : Options) : Except Refusal Unit :=
  if o.timeoutMs < leastTimeout ∨ greatestTimeout < o.timeoutMs then
    .error (.timeoutOutOfRange o.timeoutMs)
  else if o.memoryLimit = 0 then .error .noMemoryLimit
  else .ok ()

/-- The warnings of a program without errors. -/
def Program.check (p : Program) : Except Refusal (List Diagnostic) :=
  match p.diagnostics.filter (·.isError) with
  | [] => .ok p.diagnostics
  | errors => .error (.invalidProgram errors)

end Stepwise
