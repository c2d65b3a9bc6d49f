import Stepwise.Decimal.Plain
import Stepwise.Json.Reader
import Stepwise.Run.Attempt
import Stepwise.Run.Evaluate
/-!
Looking at a run without changing it: evaluating an expression and inspecting a variable. An
expression that begins with an exclamation mark is a command template, one token alone is a
variable, and anything else is a template to be filled in.
-/

namespace Stepwise

structure CommandReport where
  command : String
  success : Bool
  output : String
  stdout : Option String
  stderr : Option String
  exitCode : Option Int
  error : Option String
  riskLevel : RiskLevel
  deriving DecidableEq, Repr

inductive Evaluation where
  | token (name : String) (value : Option String) (source : VariableSource)
  | command (report : CommandReport)
  | literal (value : String)
  deriving DecidableEq, Repr

def Evaluation.succeeded : Evaluation → Bool
  | command report => report.success
  | _ => true

def Attempt.report : Attempt → CommandReport
  | blocked command level =>
    ⟨command, false, "", none, none, none, some (StepError.riskBlocked level).message, level⟩
  | aborted command level error =>
    ⟨command, false, "", none, none, none, some (StepError.aborted error).message, level⟩
  | finished command level output _ =>
    ⟨command, output.success, output.combined, some output.stdout, some output.stderr,
      output.exitCode, none, level⟩

namespace Variables

def evaluate (v : Variables) (options : Options) (expression : String) : Plan Evaluation :=
  match Text.trimChars expression.toList with
  | '!' :: template =>
    (attempt options v (Text.trim (String.ofList template))).map fun a => .command a.report
  | _ =>
    match soleToken? expression with
    | some name =>
      let (value, source) := v.lookup name
      .done (.token name value source)
    | none => .done (.literal (v.fill expression))

/-- The name that a spelling of a variable means: dollar signs in front and one pair of braces
around it are left off. -/
def inspectedName (spelling : String) : String :=
  let bare := (Text.trimChars spelling.toList).dropWhile (· == '$')
  match bare with
  | '\x7b' :: rest =>
    match rest.reverse with
    | '\x7d' :: inner => String.ofList inner.reverse
    | _ => String.ofList bare
  | _ => String.ofList bare

end Variables

inductive ValueType where
  | undefined
  | number
  | boolean
  | object
  | array
  | string
  deriving DecidableEq, Repr

namespace ValueType

def name : ValueType → String
  | undefined => "undefined"
  | number => "number"
  | boolean => "boolean"
  | object => "object"
  | array => "array"
  | string => "string"

/-- Whether a text is a decimal number, perhaps with a sign, that a finite binary one is nearest
to. -/
def isNumber (cs : List Char) : Bool :=
  ((Decimal.magnitude? (Decimal.sign cs).2).map (·.isFinite)).getD false

def infer (value : String) : ValueType :=
  let cs := Text.trimChars value.toList
  if isNumber cs then number
  else if cs = "true".toList ∨ cs = "false".toList then boolean
  else
    match Json.ofChars? cs with
    | some (.obj _) => object
    | some (.arr _) => array
    | _ => string

end ValueType

structure Inspection where
  name : String
  value : Option String
  valueType : ValueType
  /-- In characters. -/
  length : Nat
  source : VariableSource
  deriving DecidableEq, Repr

def Variables.inspect (v : Variables) (spelling : String) : Inspection :=
  let name := inspectedName spelling
  let (value, source) := v.lookup name
  ⟨name, value, (value.map ValueType.infer).getD .undefined, (value.map (·.length)).getD 0, source⟩

end Stepwise
