import Stepwise.Console.Arguments
import Stepwise.Console.Dialogue
import Stepwise.Program.Json
import Stepwise.Settings.EnvFile
import Stepwise.Settings.Load
import Stepwise.Shell.Host
/-!
What an invocation does in a world. The environment is completed from a file and the settings are
loaded before any task; a task then either finishes with a report or begins a dialogue.
-/

namespace Stepwise.Console

inductive Obstacle where
  | settings (fault : SettingsFault)
  | noProgram (path : String) (cause : ReadError)
  | badProgram
  | noAnalysis (path : String) (cause : ReadError)
  | badAnalysis (path : String)
  | refused (refusal : Refusal)

namespace Obstacle

def message : Obstacle → String
  | settings fault => fault.describe
  | noProgram path cause => "Failed to read program " ++ path ++ ": " ++ cause.message
  | badProgram => "Validation error: Malformed program: not the text of one"
  | noAnalysis path cause => "Failed to read analysis " ++ path ++ ": " ++ cause.message
  | badAnalysis path => "Malformed analysis " ++ path ++ ": not the text of one"
  | refused refusal => refusal.message

end Obstacle

/-- How the program ends, what it has written, and the world that it leaves. -/
structure Report where
  exitCode : Nat
  transcript : Transcript
  world : World

namespace Report

def ok (out : String) (w : World) : Report := ⟨0, .ofOut out, w⟩

def ofObstacle (o : Obstacle) (w : World) : Report :=
  ⟨1, .ofErr (line ("Error: " ++ o.message)), w⟩

def ofUsage (w : World) : UsageError → Report
  | .helpWanted => .ok usage w
  | _ => ⟨2, .ofErr usage, w⟩

end Report

def readProgram (w : World) (path : String) : Except Obstacle Program :=
  match w.read path with
  | .error cause => .error (.noProgram path cause)
  | .ok text =>
    match Program.ofText? text with
    | some p => .ok p
    | none => .error .badProgram

def readAnalysis (w : World) (path : String) : Except Obstacle Analysis :=
  match w.read path with
  | .error cause => .error (.noAnalysis path cause)
  | .ok text =>
    match Analysis.ofText? text with
    | some a => .ok a
    | none => .error (.badAnalysis path)

/-- Sets breakpoints in turn, up to the first that is refused. -/
def setBreakpoints (id : String) (now : Timestamp) :
    List String → Registry → Except Obstacle Registry
  | [], r => .ok r
  | stepId :: rest, r =>
    match r.setBreakpoint id stepId .set now with
    | (.ok _, r) => setBreakpoints id now rest r
    | (.error refusal, _) => .error (.refused refusal)

def openSession (w : World) (s : Settings) (path : String) (c : Choices) :
    Except Obstacle (Dialogue World) := do
  let program ← readProgram w path
  let analysis ← match c.analysis with
    | some path => (readAnalysis w path).map some
    | none => .ok none
  let host := Shell.host s.shell s.shellArgument
  let id := "session"
  match (Registry.empty s.limits).start host id program analysis c.options w with
  | (.error refusal, _) => .error (.refused refusal)
  | (.ok (_, registry), world) =>
    return ⟨host, ← setBreakpoints id (host.now world) c.breakpoints registry, id, world⟩

def runSession (d : Dialogue World) : Report :=
  match d.registry.execute d.host d.sessionId .resume d.world with
  | (.error refusal, w) => .ofObstacle (.refused refusal) w
  | (.ok (o, _), w) =>
    ⟨if o.state.status = .error then 1 else 0, .ofOut (Console.state o.state), w⟩

inductive Beginning where
  | report (report : Report)
  | dialogue (dialogue : Dialogue World)

def perform (w : World) (s : Settings) : Task → Except Obstacle Beginning
  | .run path c => do return .report (runSession (← openSession w s path c))
  | .debug path c => do return .dialogue (← openSession w s path c)
  | .validate path => do
    let p ← readProgram w path
    let exitCode := if p.diagnostics.any (·.isError) then 1 else 0
    return .report ⟨exitCode, .ofOut (diagnostics p), w⟩
  | .classify command => .ok (.report (.ok (line (Risk.classify command).name) w))
  | .settings => do return .report (.ok (← s.toToml.mapError .settings) w)

def Invocation.begin (i : Invocation) (w : World) : Except Obstacle Beginning := do
  perform w (← (Settings.load w ⟨i.settingsPath, none, true⟩).mapError .settings) i.task

def begin (w : World) (arguments : List String) : Beginning :=
  let w := EnvFile.load w
  match Invocation.ofArguments arguments with
  | .error e => .report (.ofUsage w e)
  | .ok i =>
    match i.begin w with
    | .error o => .report (.ofObstacle o w)
    | .ok b => b

/-- The report of an invocation whose lines are known beforehand. -/
def invoke (w : World) (arguments : List String) (input : String) : Report :=
  match begin w arguments with
  | .report r => r
  | .dialogue d =>
    let (t, last) := d.answers (linesOf input)
    ⟨0, d.opening ++ t, last.world⟩

end Stepwise.Console
