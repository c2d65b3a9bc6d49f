import Stepwise.Shell.Step
import Stepwise.World
/-!
Running commands in a shell of one's own. A world has a clock, files and an environment; a command
runs in it from its start until it has ended and nobody has its outputs any more, unless its time
or the room for its output is up before. The time is that of the processes, so that sleeping takes
no longer than anything else.
-/

namespace Stepwise.Shell

namespace Machine

/-- Whether a process has ended and nobody has the outputs any more. -/
def isOver (m : Machine) (pid : Nat) : Bool :=
  (m.process? pid).isNone && !m.isHeld (.host .stdout) && !m.isHeld (.host .stderr)

/-- Lets the processes go on until a process is over, and says how that ended and what is left.
Fuel that is used up counts as time that is up, and so does waiting that nothing ends. -/
def run (costs : Costs) (request : Request) (pid : Nat) :
    Nat → Machine → Except RunError Unit × Machine
  | 0, m => (.error (.timeout request.timeoutMs), m)
  | fuel + 1, m =>
    if m.isOver pid then (.ok (), m)
    else
      match m.next? with
      | none => (.error (.timeout request.timeoutMs), m)
      | some p =>
        let now := max p.time m.clock
        if request.timeoutMs * 1000000 ≤ now then (.error (.timeout request.timeoutMs), m)
        else
          match Process.step costs { m with clock := now } { p with time := now } with
          | .error e => (.error e, m)
          | .ok t => run costs request pid fuel t.settle

end Machine

def stepLimit : Nat := 5000000

def startTime : Nat := 1200000

def spawnError? (w : World) (shell : String) : Option SpawnError :=
  let path := Text.octets shell
  if path.isEmpty then some .noSuchFile
  else if path.toList.contains '/' then
    let whole := Files.absolute w.directory path
    if (Files.program? whole).isSome ∧ !path.endsWith "/" then none
    else if Files.exists? w.files w.directory whole then some .permissionDenied
    else some .noSuchFile
  else if path = "." ∨ path = ".." then some .permissionDenied
  else if Files.programs.contains path then none
  else some .noSuchFile

def firstProcess (w : World) : Process where
  pid := 4000
  parent := 1
  time := 0
  control := .done 0
  frames := []
  env :=
    Env.initial (w.environment.map fun v => ⟨some (Text.octets v), true, false⟩) "sh" [] [] 4000
      w.directory
  descriptors := [(0, .null), (1, .host .stdout), (2, .host .stderr)]
  signals := []

def firstMachine (w : World) (limit : Nat) : Machine where
  processes := [firstProcess w]
  ended := []
  buffers := []
  sources := []
  files := w.files
  home := w.directory
  nextPid := 4001
  nextId := 0
  clock := startTime
  limit
  capture := .empty

def outputOf (m : Machine) : Output where
  stdout := Text.ofOctets m.capture.stdout
  stderr := Text.ofOctets m.capture.stderr
  exitCode :=
    match m.ending? 4000 with
    | some (.exited status) => some (status % 256 : Nat)
    | _ => none

def hasNul (s : String) : Bool := s.toList.contains '\x00'

def perform (shell argument : String) (request : Request) (w : World) : Reply × World :=
  if hasNul shell ∨ hasNul argument ∨ hasNul request.command then
    (.error (.spawn .nulByte), w)
  else
    match spawnError? w shell with
    | some cause => (.error (.spawn cause), w)
    | none =>
      let m := firstMachine w request.limit
      let argv := [Text.octets shell, Text.octets argument, Text.octets request.command]
      let started := Process.program ⟨0, 0, 0, 0⟩ m (firstProcess w) argv
      match started.settle.run Costs.standard request 4000 stepLimit with
      | (.ok (), m) =>
        (.ok (outputOf m), { w with clock := w.clock.plusNanos m.clock, files := m.files })
      | (.error e, m) =>
        (.error e,
          { w with clock := w.clock.plusNanos (request.timeoutMs * 1000000), files := m.files })

def host (shell argument : String) : Host World where
  now w := w.clock
  uptime w := (w.clock.seconds * 1000000000 + w.clock.nanos).toNat
  wait w := { w with clock := w.clock.plusNanos 1000 }
  run := perform shell argument

end Stepwise.Shell
