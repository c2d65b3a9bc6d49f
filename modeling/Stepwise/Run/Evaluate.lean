import Stepwise.Extract
import Stepwise.Run.Attempt
/-!
Evaluating a step: what it reports and which variables it writes. A step that fails writes none.
Where the run goes from there is not decided here.
-/

namespace Stepwise

inductive StepError where
  | riskBlocked (level : RiskLevel)
  | aborted (error : RunError)
  | exited (code : Option Int) (stderr : String)
  | noOptions
  | stepLimit (limit : Nat)
  | unknownStep (id : String)

namespace StepError

def kind : StepError → FailureKind
  | riskBlocked _ => .riskBlocked
  | stepLimit _ => .stepLimit
  | _ => .execution

def message : StepError → String
  | riskBlocked level => "Command blocked in safe mode: classified as " ++ level.name ++ " risk"
  | aborted error => "Execution failed: " ++ error.message
  | exited code stderr =>
    "Execution failed: command exited with status " ++
      (match code with
      | some c => String.ofList (intChars c)
      | none => "signal") ++ ": " ++ Text.trim stderr
  | noOptions => "choice step has no options"
  | stepLimit limit => "Execution stopped: limit of " ++ toString limit ++ " steps reached"
  | unknownStep id => "cursor points at unknown step '" ++ id ++ "'"

end StepError

structure StepResult where
  stepId : String
  stepType : String
  success : Bool
  output : Json
  error : Option String
  errorKind : Option FailureKind
  riskLevel : Option RiskLevel
  stdout : Option String
  stderr : Option String
  exitCode : Option Int

namespace StepResult

def ok (s : Step) (output : Json) : StepResult :=
  ⟨s.id, s.kind.typeName, true, output, none, none, none, none, none, none⟩

def failed (s : Step) (error : StepError) : StepResult :=
  { ok s .null with success := false, error := some error.message, errorKind := some error.kind }

end StepResult

structure Evaluated where
  vars : Variables
  result : StepResult

/-- The value of a named or literal operand of a check. -/
def Variables.operand (v : Variables) (text : String) : String :=
  if text.toList.contains '$' then v.fill text
  else (v.value? (Text.trim text)).getD text

def falsyWords : List String := ["false", "0", "no", "off", "null", "none"]

def isTruthy (value : String) : Bool :=
  let value := Text.trim value
  !value.isEmpty && !falsyWords.contains (Text.lower value)

def Condition.holds (v : Variables) : Condition → Bool
  | equality operand value => v.operand operand == v.fill value
  | contains operand value => Risk.occursIn (v.fill value).toList (v.operand operand).toList
  | boolean expression => isTruthy (v.operand expression)

def Variables.assignOutput (v : Variables) (target : Option String) (output : ToolOutput) :
    Variables :=
  match target with
  | none => v
  | some name =>
    { v with
      frame := v.frame.insert name output.output
      toolOutputs := v.toolOutputs.insert name output }

def Attempt.evaluated (s : Step) (v : Variables) (target : Option String) : Attempt → Evaluated
  | blocked command level =>
    ⟨v, { StepResult.failed s (.riskBlocked level) with
      riskLevel := some level, output := .obj [("command", .str command)] }⟩
  | aborted command level error =>
    ⟨v, { StepResult.failed s (.aborted error) with
      riskLevel := some level, output := .obj [("command", .str command)] }⟩
  | finished command level output time =>
    let combined := output.combined
    let result :=
      if output.success then StepResult.ok s (.str combined)
      else { StepResult.failed s (.exited output.exitCode output.stderr) with
        output := .str combined }
    ⟨if output.success then v.assignOutput target ⟨command, combined, time⟩ else v,
      { result with
        riskLevel := some level, stdout := some output.stdout, stderr := some output.stderr,
        exitCode := output.exitCode }⟩

namespace Step

def runCommand (s : Step) (options : Options) (v : Variables) (template : String)
    (target : Option String) : Plan Evaluated :=
  (attempt options v template).map (·.evaluated s v target)

def logOutput (level : NoteLevel) (message : String) : Json :=
  .obj [("level", .str level.name), ("message", .str message)]

def runAction (s : Step) (options : Options) (v : Variables) : Action → Plan Evaluated
  | .command _ template target => s.runCommand options v template target
  | .log message level => .done ⟨v, .ok s (logOutput level (v.fill message))⟩

/-- Puts the output of an action inside that of the step. -/
def wrapOutput (wrap : Json → Json) (e : Evaluated) : Evaluated :=
  { e with result := { e.result with output := wrap e.result.output } }

def branchOutput (outcome : Bool) (result : Json) : Json :=
  .obj [("branch", .str (if outcome then "true" else "false")), ("condition", .bool outcome),
    ("result", result)]

def optionOutput (description : String) (result : Json) : Json :=
  .obj [("chosen_option", .nat 0), ("description", .str description), ("result", result)]

def analyze (v : Variables) (description : String) (input extract : List String) : Json :=
  let inputs := Table.ofList (input.map fun n => (n, Json.ofOption .str (v.value? n)))
  let text := v.fill description
  let extracted :=
    Table.ofList (extract.map fun n => (n, Json.ofOption .str (extractValue text n)))
  .obj [("extracted", .obj extracted.entries), ("inputs", .obj inputs.entries)]

def assign (s : Step) (v : Variables) (target value : String) : Evaluated :=
  let filled := v.fill value
  let output key : Json :=
    .obj [("assign_to", .str target), ("key", .str key), ("value", .str filled)]
  if isMemoryTarget target then
    ⟨{ v with memory := v.memory.insert s.memoryKey filled }, .ok s (output s.memoryKey)⟩
  else ⟨{ v with frame := v.frame.insert target filled }, .ok s (output target)⟩

/-- What evaluating a step asks for, and what becomes of the answer. -/
def plan (s : Step) (options : Options) (v : Variables) : Plan Evaluated :=
  match s.kind with
  | .command _ template _ target => s.runCommand options v template target
  | .conditional condition onTrue onFalse =>
    let outcome := condition.holds v
    match if outcome then onTrue else onFalse with
    | some action => (s.runAction options v action).map (wrapOutput (branchOutput outcome))
    | none => .done ⟨v, .ok s (.obj [("branch", .null), ("condition", .bool outcome)])⟩
  | .assignment target value _ => .done (s.assign v target value)
  | .choice [] => .done ⟨v, .failed s .noOptions⟩
  | .choice (chosen :: _) =>
    (s.runAction options v chosen.action).map (wrapOutput (optionOutput chosen.description))
  | .analysis input extract => .done ⟨v, .ok s (analyze v s.description input extract)⟩
  | .note level message => .done ⟨v, .ok s (logOutput level (v.fill message))⟩

end Step

def StepResult.entry (r : StepResult) (span : Span) : TraceEntry :=
  ⟨r.stepId, r.stepType, span.started, span.completed, span.durationMs, r.success,
    if r.success then some r.output else none, r.error⟩

def RunState.evaluate (h : Host σ) (options : Options) (s : RunState) (step : Step) (world : σ) :
    (StepResult × RunState) × σ :=
  let (e, answered) := (step.plan options s.vars).run h world
  let after := h.wait answered
  let entry := e.result.entry (h.span world after)
  ((e.result, { s with vars := e.vars, history := s.history ++ [entry] }), h.wait after)

end Stepwise
