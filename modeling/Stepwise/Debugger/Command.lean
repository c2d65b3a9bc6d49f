import Stepwise.Refusal
/-!
The commands of an operator. A request names a command and may bring parameters; `name` and
`params` give the request back.
-/

namespace Stepwise

open Json (Decoder)

inductive DebugCommand where
  | stepOver
  | stepInto
  | stepOut
  | resume
  | pause
  | reset
  | evaluate (expression : String)
  | inspect (name : String)
  deriving DecidableEq, Repr

namespace DebugCommand

def name : DebugCommand → String
  | stepOver => "step_over"
  | stepInto => "step_into"
  | stepOut => "step_out"
  | resume => "continue"
  | pause => "pause"
  | reset => "reset"
  | evaluate _ => "evaluate"
  | inspect _ => "inspect"

def params : DebugCommand → Option Json
  | evaluate expression => some (.obj [("expression", .str expression)])
  | inspect name => some (.obj [("variable", .str name)])
  | _ => none

def isStepping : DebugCommand → Bool
  | stepOver | stepInto | stepOut | resume => true
  | _ => false

def parameter (command : String) (params : Option Json) (key : String) : Except Refusal String :=
  match params.bind fun p => (p.member? key).bind Json.text? with
  | some s => .ok s
  | none => .error (.missingParameter command key)

def plain : List (String × DebugCommand) :=
  [("step_over", stepOver), ("step_into", stepInto), ("step_out", stepOut), ("continue", resume),
    ("pause", pause), ("reset", reset)]

def ofRequest (command : String) (params : Option Json) : Except Refusal DebugCommand :=
  match plain.lookup command with
  | some c => .ok c
  | none =>
    if command = "evaluate" then evaluate <$> parameter command params "expression"
    else if command = "inspect" then inspect <$> parameter command params "variable"
    else .error (.unknownCommand command)

def toJson (c : DebugCommand) : Json :=
  .obj (("command", .str c.name) ::
    match c with
    | evaluate expression => [("expression", .str expression)]
    | inspect name => [("variable", .str name)]
    | _ => [])

inductive Tag where
  | plain (command : DebugCommand)
  | evaluate
  | inspect

def tags : List (String × Tag) :=
  plain.map (fun e => (e.1, .plain e.2)) ++ [("evaluate", .evaluate), ("inspect", .inspect)]

def decode : Decoder DebugCommand := fun j => do
  let (tag, body) ← Json.splitTagged "DebugCommand" "command" tags false j
  match tag with
  | .plain command => body.unit command
  | .evaluate =>
    body.read "DebugCommand::Evaluate" ["expression"] fun m =>
      DebugCommand.evaluate <$> m.required "expression" Json.text
  | .inspect =>
    body.read "DebugCommand::Inspect" ["variable"] fun m =>
      DebugCommand.inspect <$> m.required "variable" Json.text

end DebugCommand

end Stepwise
