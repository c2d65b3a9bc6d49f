import Stepwise.Decimal.Plain
import Stepwise.Refusal
/-!
The arguments of the program. The first one that is no flag names a task, whose flags and operand
follow in any order; after `--` everything is an operand. A flag takes its value after an equals
sign or from the next argument, which then must not look like a flag.
-/

namespace Stepwise.Console

/-- How a session is to be run. -/
structure Choices where
  analysis : Option String
  riskLevel : RiskLevel
  timeoutMs : Nat
  memoryLimit : Option Nat
  breakpoints : List String
  isQuiet : Bool
  deriving DecidableEq, Repr

def Choices.standard : Choices := ⟨none, .medium, Options.standard.timeoutMs, none, [], false⟩

def Choices.options (c : Choices) : Options where
  debugMode := !c.isQuiet
  timeoutMs := c.timeoutMs
  memoryLimit := c.memoryLimit.getD Options.standard.memoryLimit
  autoContinue := false
  riskLevel := c.riskLevel

inductive Task where
  | run (program : String) (choices : Choices)
  | debug (program : String) (choices : Choices)
  | validate (program : String)
  | classify (command : String)
  | settings
  deriving DecidableEq, Repr

structure Invocation where
  settingsPath : Option String
  task : Task
  deriving DecidableEq, Repr

inductive UsageError where
  /-- Not an error at all. -/
  | helpWanted
  | noTask
  | unknownTask (name : String)
  | unknownFlag (flag : String)
  | missingValue (flag : String)
  | unwantedValue (flag : String)
  | badValue (flag value : String)
  | repeatedFlag (flag : String)
  | missingOperand
  | emptyOperand
  | extraOperand (text : String)
  deriving DecidableEq, Repr

inductive Flag where
  | settings
  | analysis
  | riskLevel
  | timeout
  | memoryLimit
  | breakAfter
  | quiet
  deriving DecidableEq, Repr

namespace Flag

def name : Flag → String
  | settings => "--config"
  | analysis => "--analysis"
  | riskLevel => "--risk-level"
  | timeout => "--timeout-ms"
  | memoryLimit => "--memory-limit"
  | breakAfter => "--break"
  | quiet => "--quiet"

def forSessions : List Flag :=
  [settings, analysis, riskLevel, timeout, memoryLimit, breakAfter, quiet]

def takesValue (f : Flag) : Bool := f != quiet

def isRepeatable (f : Flag) : Bool := f == breakAfter

end Flag

inductive TaskName where
  | run
  | debug
  | validate
  | classify
  | settings
  deriving DecidableEq, Repr

namespace TaskName

def all : List TaskName := [run, debug, validate, classify, settings]

def name : TaskName → String
  | run => "run"
  | debug => "debug"
  | validate => "validate"
  | classify => "classify"
  | settings => "config"

def flags : TaskName → List Flag
  | run | debug => Flag.forSessions
  | _ => [.settings]

end TaskName

structure Collected where
  given : List Flag
  settingsPath : Option String
  choices : Choices
  operand : Option String

namespace Collected

def empty (settingsPath : Option String) : Collected := ⟨[], settingsPath, .standard, none⟩

def withChoices (c : Collected) (change : Choices → Choices) : Except UsageError Collected :=
  .ok { c with choices := change c.choices }

def set (c : Collected) (f : Flag) (value : String) : Except UsageError Collected :=
  let bad := .error (.badValue f.name value)
  match f with
  | .settings => if value.isEmpty then bad else .ok { c with settingsPath := some value }
  | .analysis => if value.isEmpty then bad else c.withChoices ({ · with analysis := some value })
  | .riskLevel =>
    match RiskLevel.ofText value with
    | .ok level => c.withChoices ({ · with riskLevel := level })
    | .error _ => bad
  | .timeout =>
    match Decimal.natBelow? UInt64.size value.toList with
    | some ms => c.withChoices ({ · with timeoutMs := ms })
    | none => bad
  | .memoryLimit =>
    match Decimal.natBelow? UInt64.size value.toList with
    | some bytes => c.withChoices ({ · with memoryLimit := some bytes })
    | none => bad
  | .breakAfter => c.withChoices fun s => { s with breakpoints := s.breakpoints ++ [value] }
  | .quiet => c.withChoices ({ · with isQuiet := true })

/-- Takes in a flag, which most may be only once. -/
def take (c : Collected) (f : Flag) (value : String) : Except UsageError Collected :=
  if f ∈ c.given ∧ ¬ f.isRepeatable then .error (.repeatedFlag f.name)
  else { c with given := f :: c.given }.set f value

def addOperand (c : Collected) (text : String) : Except UsageError Collected :=
  match c.operand with
  | some _ => .error (.extraOperand text)
  | none => .ok { c with operand := some text }

def addOperands : List String → Collected → Except UsageError Collected
  | [], c => .ok c
  | text :: rest, c => do addOperands rest (← c.addOperand text)

end Collected

/-- Whether an argument looks like a flag. A lone dash does not. -/
def looksLikeFlag (arg : String) : Bool := arg.startsWith "-" && arg != "-"

def splitFlag (arg : String) : String × Option String :=
  let cs := arg.toList
  match cs.dropWhile (· ≠ '=') with
  | [] => (arg, none)
  | _ :: value => (String.ofList (cs.takeWhile (· ≠ '=')), some (String.ofList value))

def readFlag (known : List Flag) (arg : String) (rest : List String) :
    Except UsageError ((Flag × String) × List String) :=
  let (name, attached) := splitFlag arg
  match known.find? fun f => f.name = name with
  | none =>
    if arg.startsWith "-h" ∨ arg = "--help" then .error .helpWanted else .error (.unknownFlag name)
  | some f =>
    if f.takesValue then
      match attached, rest with
      | some value, rest => .ok ((f, value), rest)
      | none, value :: rest =>
        if looksLikeFlag value then .error (.missingValue name) else .ok ((f, value), rest)
      | none, [] => .error (.missingValue name)
    else if attached.isSome then .error (.unwantedValue name)
    else .ok ((f, ""), rest)

def collect (known : List Flag) : Nat → List String → Collected → Except UsageError Collected
  | _, [], c => .ok c
  | 0, _, _ => .error .noTask
  | fuel + 1, arg :: rest, c =>
    if arg = "--" then c.addOperands rest
    else if looksLikeFlag arg then do
      let ((f, value), rest) ← readFlag known arg rest
      collect known fuel rest (← c.take f value)
    else do collect known fuel rest (← c.addOperand arg)

/-- The task that has been collected. Every task but one has an operand, and a path is not empty. -/
def Collected.task (c : Collected) (name : TaskName) : Except UsageError Task :=
  let path : Except UsageError String :=
    match c.operand with
    | none => .error .missingOperand
    | some p => if p.isEmpty then .error .emptyOperand else .ok p
  match name with
  | .run => path.map (Task.run · c.choices)
  | .debug => path.map (Task.debug · c.choices)
  | .validate => path.map Task.validate
  | .classify =>
    match c.operand with
    | some command => .ok (.classify command)
    | none => .error .missingOperand
  | .settings =>
    match c.operand with
    | some text => .error (.extraOperand text)
    | none => .ok .settings

def helpError : List String → UsageError
  | [] => .helpWanted
  | [name] =>
    if name = "help" ∨ TaskName.all.any (·.name = name) then .helpWanted else .unknownTask name
  | _ :: name :: _ => .unknownTask name

def Invocation.read : Nat → Collected → List String → Except UsageError Invocation
  | _, _, [] => .error .noTask
  | 0, _, _ => .error .noTask
  | fuel + 1, c, arg :: rest =>
    match TaskName.all.find? fun t => t.name = arg with
    | some name => do
      let c ← collect name.flags (rest.length + 1) rest (.empty c.settingsPath)
      return ⟨c.settingsPath, ← c.task name⟩
    | none =>
      if arg = "help" then .error (helpError rest)
      else if looksLikeFlag arg ∧ arg ≠ "--" then do
        let ((f, value), rest) ← readFlag [.settings] arg rest
        read fuel (← c.take f value) rest
      else .error (.unknownTask arg)

def Invocation.ofArguments (args : List String) : Except UsageError Invocation :=
  Invocation.read (args.length + 1) (.empty none) args

end Stepwise.Console
