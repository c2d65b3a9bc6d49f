import Stepwise.Program.Basic
import Stepwise.Template
/-!
What can be wrong with a program whose text could be read. Five rules look at it, each on its own;
what they find is listed rule by rule. Errors keep a program from being run, warnings do not.
-/

namespace Stepwise

inductive Severity where
  | error
  | warning
  deriving DecidableEq, Repr

inductive Rule where
  | emptyProgram
  | duplicateId
  | unknownProcedure
  | stepFields
  | undefinedVariable
  deriving DecidableEq, Repr

namespace Rule

def all : List Rule :=
  [emptyProgram, duplicateId, unknownProcedure, stepFields, undefinedVariable]

def id : Rule → String
  | emptyProgram => "empty-program"
  | duplicateId => "duplicate-id"
  | unknownProcedure => "unknown-procedure"
  | stepFields => "step-fields"
  | undefinedVariable => "undefined-variable"

def description : Rule → String
  | emptyProgram => "Programs must contain at least one step"
  | duplicateId => "Procedure and step ids must be unique"
  | unknownProcedure => "execution_order must only reference declared procedures"
  | stepFields => "Required step fields must be present and non-blank"
  | undefinedVariable => "Variables should be assigned before they are referenced"

end Rule

inductive Problem where
  | noProcedures
  | noSteps
  | blankProcedureId
  | duplicateProcedure (id : String)
  | blankStepId
  | duplicateStep (id : String)
  | unknownProcedure (id : String)
  | blankCommand
  | blankActionCommand
  | blankTarget
  | noOptions
  | undefinedVariable (name : String)
  deriving DecidableEq, Repr

namespace Problem

def rule : Problem → Rule
  | noProcedures | noSteps => .emptyProgram
  | blankProcedureId | duplicateProcedure _ | blankStepId | duplicateStep _ => .duplicateId
  | unknownProcedure _ => .unknownProcedure
  | blankCommand | blankActionCommand | blankTarget | noOptions => .stepFields
  | undefinedVariable _ => .undefinedVariable

def severity : Problem → Severity
  | undefinedVariable _ => .warning
  | _ => .error

def message : Problem → String
  | noProcedures => "Program has no procedures"
  | noSteps => "Program has no executable steps"
  | blankProcedureId => "Procedure id must not be empty"
  | duplicateProcedure id => "Duplicate procedure id '" ++ id ++ "'"
  | blankStepId => "Step id must not be empty"
  | duplicateStep id => "Duplicate step id '" ++ id ++ "'"
  | unknownProcedure id => "execution_order references unknown procedure '" ++ id ++ "'"
  | blankCommand => "command step has an empty command"
  | blankActionCommand => "command action has an empty command"
  | blankTarget => "assignment step has an empty assign_to"
  | noOptions => "choice step has no options"
  | undefinedVariable name => "Variable '" ++ name ++ "' is used before it is assigned"

end Problem

inductive Location where
  | program
  | procedure (id : String)
  | step (procedureId stepId : String)
  deriving DecidableEq, Repr

namespace Location

def describe : Location → String
  | program => "program"
  | procedure id => id
  | step p s => p ++ "/" ++ s

def procedure? : Location → Option String
  | program => none
  | procedure id => some id
  | step p _ => some p

def step? : Location → Option String
  | step _ s => some s
  | _ => none

end Location

structure Diagnostic where
  location : Location
  problem : Problem
  deriving DecidableEq, Repr

namespace Diagnostic

def isError (d : Diagnostic) : Bool := d.problem.severity == .error

def describe (d : Diagnostic) : String :=
  (if d.isError then "error" else "warning") ++ " at " ++ d.location.describe ++ ": " ++
    d.problem.message ++ " [" ++ d.problem.rule.id ++ "]"

end Diagnostic

namespace Validation

def emptyProgram (p : Program) : List Diagnostic :=
  if p.procedures.isEmpty then [⟨.program, .noProcedures⟩]
  else if p.stepCount = 0 then [⟨.program, .noSteps⟩]
  else []

/-- What is wrong with the ids of steps, and the ids met so far. -/
def stepIds (procedureId : String) (seen : List String) : List Step → List Diagnostic × List String
  | [] => ([], seen)
  | s :: rest =>
    if Text.isBlankText s.id then
      let (found, seen) := stepIds procedureId seen rest
      (⟨.procedure procedureId, .blankStepId⟩ :: found, seen)
    else if seen.contains s.id then
      let (found, seen) := stepIds procedureId seen rest
      (⟨.step procedureId s.id, .duplicateStep s.id⟩ :: found, seen)
    else stepIds procedureId (s.id :: seen) rest

def procedureIds (procedures steps : List String) : List Procedure → List Diagnostic
  | [] => []
  | q :: rest =>
    let own : List Diagnostic :=
      if Text.isBlankText q.id then [⟨.program, .blankProcedureId⟩]
      else if procedures.contains q.id then [⟨.procedure q.id, .duplicateProcedure q.id⟩]
      else []
    let (found, steps') := stepIds q.id steps q.steps
    own ++ found ++ procedureIds (q.id :: procedures) steps' rest

def duplicateId (p : Program) : List Diagnostic := procedureIds [] [] p.procedures

def unknownProcedure (p : Program) : List Diagnostic :=
  (p.executionOrder.filter fun id => (p.procedure? id).isNone).map fun id =>
    ⟨.program, .unknownProcedure id⟩

def actionProblem? : Action → Option Problem
  | .command _ line _ => if Text.isBlankText line then some .blankActionCommand else none
  | .log .. => none

def stepProblems (s : Step) : List Problem :=
  match s.kind with
  | .command _ line _ _ => if Text.isBlankText line then [.blankCommand] else []
  | .conditional .. => s.actions.filterMap actionProblem?
  | .assignment target _ _ => if Text.isBlankText target then [.blankTarget] else []
  | .choice options =>
    (if options.isEmpty then [.noOptions] else []) ++ s.actions.filterMap actionProblem?
  | .analysis .. | .note .. => []

def stepFields (p : Program) : List Diagnostic :=
  p.procedures.flatMap fun q =>
    q.steps.flatMap fun s => (stepProblems s).map fun problem => ⟨.step q.id s.id, problem⟩

/-- One side of a check: the tokens of a template, or else one bare name. -/
def operandVariables (text : String) : List String :=
  match tokenNames text with
  | [] =>
    let bare := Text.trimChars text.toList
    match Template.name? bare with
    | some (_, []) => [String.ofList bare]
    | _ => []
  | names => names

def actionVariables : Action → List String
  | .command _ line _ => tokenNames line
  | .log message _ => tokenNames message

def conditionVariables : Condition → List String
  | .equality operand value | .contains operand value =>
    operandVariables operand ++ tokenNames value
  | .boolean expression => tokenNames expression

def usedVariables (s : Step) : List String :=
  match s.kind with
  | .command _ line _ _ => tokenNames line
  | .conditional condition .. =>
    conditionVariables condition ++ s.actions.flatMap actionVariables
  | .assignment _ value _ => tokenNames value
  | .choice options => (options.head?.map fun o => actionVariables o.action).getD []
  | .analysis input _ => input
  | .note _ message => tokenNames message

/-- Each name once, at its first place. -/
def distinct : List String → List String
  | [] => []
  | n :: rest => n :: (distinct rest).filter (· != n)

def undefinedFrom (defined : List String) : List (String × Step) → List Diagnostic
  | [] => []
  | (procedureId, s) :: rest =>
    ((distinct (usedVariables s)).filter fun n => !defined.contains n).map
        (fun n => ⟨.step procedureId s.id, .undefinedVariable n⟩) ++
      undefinedFrom (defined ++ s.definedVariables) rest

def undefinedVariable (p : Program) : List Diagnostic :=
  undefinedFrom p.globalMemory.keys (p.slots.flatMap fun q => q.steps.map fun s => (q.id, s))

def applyRule (p : Program) : Rule → List Diagnostic
  | .emptyProgram => emptyProgram p
  | .duplicateId => duplicateId p
  | .unknownProcedure => unknownProcedure p
  | .stepFields => stepFields p
  | .undefinedVariable => undefinedVariable p

end Validation

def Program.diagnostics (p : Program) : List Diagnostic :=
  Rule.all.flatMap (Validation.applyRule p)

end Stepwise
