import Stepwise.Debugger.Json
/-!
What an operator reads about a run. Every text ends its last line.
-/

namespace Stepwise

structure Transcript where
  out : String
  err : String
  deriving DecidableEq, Repr

namespace Transcript

def empty : Transcript := ⟨"", ""⟩

def ofOut (s : String) : Transcript := ⟨s, ""⟩

def ofErr (s : String) : Transcript := ⟨"", s⟩

instance : Append Transcript := ⟨fun a b => ⟨a.out ++ b.out, a.err ++ b.err⟩⟩

end Transcript

namespace Console

def line (s : String) : String := s ++ "\n"

def position (s : RunState) : String :=
  let status := "[" ++ s.status.name ++ "] "
  match s.current, (if s.status = .error then s.failure else none) with
  | _, some f => line (status ++ "at " ++ f.stepId ++ ": " ++ f.error)
  | some c, none =>
    line (status ++ "next: " ++ c.procedureId ++ "/" ++ c.stepId ++ " (#" ++
      toString c.instructionPointer ++ ")")
  | none, none => line (status ++ toString s.stepsExecuted ++ " step(s) executed")

def stepResult (r : StepResult) : String :=
  line ((if r.success then "✓ " else "✗ ") ++ r.stepId ++ " [" ++ r.stepType ++ "]") ++
    (if r.output.isNull then "" else line ("  " ++ r.output.compact)) ++
    (match r.error with
      | some error => line ("  error: " ++ error)
      | none => "")

def outcome (o : Outcome) : String :=
  (o.stepResult.map stepResult).getD "" ++
    (o.evaluation.map fun e => line e.toJson.pretty).getD "" ++
    (o.inspection.map fun i => line i.toJson.pretty).getD "" ++
    (if 1 < o.stepsRun then line ("(" ++ toString o.stepsRun ++ " steps)") else "") ++
    position o.state

def state (s : RunState) : String := line s.toJson.pretty

def breakpoints (names : Names) : String :=
  line ("breakpoints: [" ++ ", ".intercalate (Table.keys names) ++ "]")

def diagnostics (p : Program) : String :=
  match p.diagnostics with
  | [] => line ("✓ " ++ p.name ++ " is valid")
  | found =>
    let errors := (found.filter (·.isError)).length
    String.join (found.map fun d => line d.describe) ++
      line ("\n" ++ toString errors ++ " error(s), " ++ toString (found.length - errors) ++
        " warning(s)")

def help : String := line ("commands:
  step | s          execute the current step
  into | i          same as step
  out | o           run until the current procedure is left
  continue | c      run until completion, an error or a breakpoint
  pause             pause a running session
  reset             start over
  break <step>      break after <step>
  clear <step>      remove a breakpoint
  eval <expr>       $var, !command or a template
  inspect <var>     show a variable with its type and source
  risk <level>      change the risk level (low, medium, high)
  state             print the full execution state
  quit | q          leave the debugger")

def usage : String := line ("usage: runbook [--config FILE] TASK

tasks:
  run PROGRAM [flags]     run a program to completion, the first breakpoint or an error
  debug PROGRAM [flags]   step through a program
  validate PROGRAM        check a program for structural problems
  classify COMMAND        print the risk level of a shell command
  config                  print the effective configuration

flags:
  --analysis FILE         analysis of the program
  --risk-level LEVEL      low refuses commands of high risk (default: medium)
  --timeout-ms MS         time for each command (default: 30000)
  --memory-limit BYTES    room for the output of a command
  --break STEP            break after a step; may be repeated
  --quiet                 do not log commands")

end Console

end Stepwise
