import Stepwise.Console.Describe
import Stepwise.Console.Line
import Stepwise.Session.Registry
/-!
Stepping through a program line by line. A dialogue asks for a line, answers it and asks again,
until it is told to quit or there are no more lines.
-/

namespace Stepwise.Console

structure Dialogue (σ : Type) where
  host : Host σ
  registry : Registry
  sessionId : String
  world : σ

def prompt : String := "(runbook) "

namespace Dialogue

variable {σ : Type}

def opening (d : Dialogue σ) : Transcript :=
  match d.registry.state d.sessionId with
  | .ok s => .ofOut (position s ++ prompt)
  | .error r => .ofErr (line r.message)

def refuse (d : Dialogue σ) (r : Refusal) : Transcript × Dialogue σ := (.ofErr (line r.message), d)

def setBreakpoint (d : Dialogue σ) (stepId : String) (action : BreakpointAction) :
    Transcript × Dialogue σ :=
  let (set, registry) := d.registry.setBreakpoint d.sessionId stepId action (d.host.now d.world)
  let d := { d with registry }
  match set with
  | .ok names => (.ofOut (breakpoints names), d)
  | .error r => d.refuse r

def obey (d : Dialogue σ) : ConsoleCommand → Transcript × Dialogue σ
  | .debug command =>
    match d.registry.execute d.host d.sessionId command d.world with
    | (.ok (o, registry), world) => (.ofOut (outcome o), { d with registry, world })
    | (.error r, world) => { d with world }.refuse r
  | .breakAt stepId => d.setBreakpoint stepId .set
  | .clear stepId => d.setBreakpoint stepId .remove
  | .risk level =>
    match d.registry.setRiskLevel d.sessionId level (d.host.now d.world) with
    | .ok (s, registry) =>
      (.ofOut (line ("risk level: " ++ level.name) ++ position s), { d with registry })
    | .error r => d.refuse r
  | .state =>
    match d.registry.state d.sessionId with
    | .ok s => (.ofOut (Console.state s), d)
    | .error r => d.refuse r
  | .help => (.ofOut help, d)
  | .quit => (.empty, d)

structure Answer (σ : Type) where
  transcript : Transcript
  dialogue : Dialogue σ
  isLast : Bool

/-- The answer to a line; unless it is the last one, it asks for the next. -/
def answer (d : Dialogue σ) (text : String) : Answer σ :=
  match ConsoleCommand.ofLine text with
  | .ok (some .quit) => ⟨.empty, d, true⟩
  | .ok (some command) =>
    let (t, d) := d.obey command
    ⟨t ++ .ofOut prompt, d, false⟩
  | .ok none => ⟨.ofOut prompt, d, false⟩
  | .error e => ⟨.ofErr (line e.message) ++ .ofOut prompt, d, false⟩

def answers (d : Dialogue σ) : List String → Transcript × Dialogue σ
  | [] => (.empty, d)
  | text :: rest =>
    let a := d.answer text
    if a.isLast then (a.transcript, a.dialogue)
    else
      let (t, d) := a.dialogue.answers rest
      (a.transcript ++ t, d)

end Dialogue

/-- The lines of a text. What follows the last line break is one if it is not empty. -/
def linesOf (s : String) : List String :=
  match (s.splitOn "\n").reverse with
  | "" :: rest => rest.reverse
  | lines => lines.reverse

end Stepwise.Console
