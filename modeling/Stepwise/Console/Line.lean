import Stepwise.Debugger.Command
/-!
One line of an operator's input. Blanks around the line do not matter; the first word decides what
it is, and the rest, without the blanks around it, is its argument.
-/

namespace Stepwise

inductive ConsoleCommand where
  | debug (command : DebugCommand)
  | breakAt (stepId : String)
  | clear (stepId : String)
  | risk (level : RiskLevel)
  | state
  | help
  | quit
  deriving DecidableEq, Repr

inductive LineError where
  | unknownWord (word : String)
  | missingArgument (word what : String)
  | refused (refusal : Refusal)

def LineError.message : LineError → String
  | unknownWord word => "Unknown command: " ++ word ++ " (try 'help')"
  | missingArgument word what => "'" ++ word ++ "' needs " ++ what
  | refused refusal => refusal.message

namespace ConsoleCommand

/-- What a word makes of the rest of its line. -/
inductive Verb where
  | plain (command : ConsoleCommand)
  | withArgument (what : String) (make : String → ConsoleCommand)
  | risk

def verbs : List (List String × Verb) := [
  (["step", "s", "next", "n"], .plain (.debug .stepOver)),
  (["into", "i"], .plain (.debug .stepInto)),
  (["out", "o"], .plain (.debug .stepOut)),
  (["continue", "c"], .plain (.debug .resume)),
  (["pause"], .plain (.debug .pause)),
  (["reset"], .plain (.debug .reset)),
  (["eval", "e", "p"], .withArgument "an expression" fun s => .debug (.evaluate s)),
  (["inspect"], .withArgument "a variable name" fun s => .debug (.inspect s)),
  (["break", "b"], .withArgument "a step id" .breakAt),
  (["clear"], .withArgument "a step id" .clear),
  (["risk"], .risk),
  (["state"], .plain .state),
  (["help", "h", "?"], .plain .help),
  (["quit", "q", "exit"], .plain .quit)]

def verb? (word : String) : Option Verb :=
  (verbs.find? fun v => v.1.contains word).map (·.2)

def argument (word what rest : String) : Except LineError String :=
  if rest.isEmpty then .error (.missingArgument word what) else .ok rest

def Verb.apply (word rest : String) : Verb → Except LineError ConsoleCommand
  | plain command => .ok command
  | withArgument what make => (argument word what rest).map make
  | risk => do
    let name ← argument word "a risk level" rest
    match RiskLevel.ofText name with
    | .ok level => .ok (ConsoleCommand.risk level)
    | .error refusal => .error (.refused refusal)

/-- The first word of a line without blanks in front, and the rest without blanks around it. -/
def split (line : List Char) : String × String :=
  (String.ofList (line.takeWhile fun c => !Text.isBlank c),
    String.ofList (Text.trimChars (line.dropWhile fun c => !Text.isBlank c)))

def ofLine (line : String) : Except LineError (Option ConsoleCommand) :=
  match Text.trimChars line.toList with
  | [] => .ok none
  | cs =>
    let (word, rest) := split cs
    match verb? word with
    | some verb => (verb.apply word rest).map some
    | none => .error (.unknownWord word)

end ConsoleCommand

end Stepwise
