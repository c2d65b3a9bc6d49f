import Stepwise.Command
import Stepwise.Shell.Expand
/-!
The processes of one command, what they share, and their time. A process is what it is doing now
and what it will go on with after that. Processes have clocks of their own, in nanoseconds; the
one that is the least far on goes first, and one that waits for another is brought up to the
other's time.
-/

namespace Stepwise.Shell

inductive Descriptor where
  | null
  /-- To the reader outside. -/
  | host (pipe : Pipe)
  | readEnd (pipe : Nat)
  | writeEnd (pipe : Nat)
  /-- A text that all who hold it read on in turn. -/
  | source (id : Nat)
  | sink (path : String)
  deriving DecidableEq

abbrev Descriptors := List (Nat × Descriptor)

inductive Goal where
  | simple (assigns : List (String × Word)) (words : List Word) (redirects : List Redirect)
  | each (name : String) (words : List Word) (body : Node)
  | select (word : Word) (clauses : List (List Word × Node))
  | redirected (body : Node) (redirects : List Redirect)

/-- What takes a shell out of the commands that it is inside of. -/
inductive Leap where
  | leaveLoops (count : Nat)
  | nextRound (count : Nat)
  | leaveFunction (status : Nat)
  | leaveShell (status : Nat)

structure Reading where
  names : List String
  isRaw : Bool
  /-- The characters so far, in reverse, and whether each was escaped. -/
  taken : List (Char × Bool)
  escaping : Bool

/-- What a process does next. `isTested` says that a failure is being looked at and does not end a
shell that ends on failures. -/
inductive Control where
  | run (node : Node) (isTested : Bool)
  | expand (goal : Goal) (answers : List Answer) (isTested : Bool)
  /-- Takes in the output of a command inside a word, in reverse. -/
  | collect (child pipe : Nat) (output : List Char) (goal : Goal) (answers : List Answer)
      (isTested : Bool)
  /-- Goes on when all of them have ended, with the status of the last. -/
  | await (children : List Nat)
  /-- The same, but a signal may come between; the status is zero if all children are meant. -/
  | linger (children : List Nat) (areAll : Bool)
  | write (fd : Nat) (output : List Char) (status : Nat)
  | read (reading : Reading)
  /-- Copies what a descriptor gives, and then files. -/
  | copy (from? : Option Descriptor) (paths : List String) (status : Nat)
  /-- Takes in commands from the input, so far in reverse. -/
  | gather (text : List Char)
  /-- Commands still to be read, and the status of the last one before them. -/
  | script (text : List Char) (status : Nat)
  | leap (leap : Leap)
  | done (status : Nat)
  | stopped

inductive Frame where
  | seq (next : Node) (isTested : Bool)
  | both (next : Node) (isTested : Bool)
  | either (next : Node) (isTested : Bool)
  | not
  | branch (onTrue onFalse : Node) (isTested : Bool)
  | loopTest (isUntil : Bool) (test body : Node) (isTested : Bool) (status : Nat)
  | loopBody (isUntil : Bool) (test body : Node) (isTested : Bool)
  | each (name : String) (words : List String) (body : Node) (isTested : Bool)
  | restore (saved : List (Nat × Option Descriptor))
  | call (params : List String)
  | scope
  | script (rest : List Char)
  | checkFailure
  | afterTrap (status : Nat)
  | afterExit (status : Nat)
  | copy (from? : Option Descriptor) (paths : List String) (status : Nat)
  | fatal
  | command (argv : List String) (isDirect : Bool) (assigns : List (String × String))
      (openings : List Opening) (isTested : Bool)

structure Process where
  pid : Nat
  parent : Nat
  time : Nat
  control : Control
  frames : List Frame
  env : Env
  descriptors : Descriptors
  signals : List Nat

inductive Ending where
  | exited (status : Nat)
  | killed (signal : Nat)

def Ending.status : Ending → Nat
  | exited status => status
  | killed signal => 128 + signal

structure Ended where
  pid : Nat
  parent : Nat
  ending : Ending

/-- What is in a pipe: what is read next, and after that what was written last, chunk by chunk in
reverse. -/
structure Buffer where
  id : Nat
  front : List Char
  back : List (List Char)
  size : Nat

namespace Buffer

def put (b : Buffer) (chunk : List Char) : Buffer :=
  { b with back := chunk :: b.back, size := b.size + chunk.length }

/-- Takes some characters, at least one if there is one. -/
def take (b : Buffer) (count : Nat) : List Char × Buffer :=
  let (front, back) := if b.front.isEmpty then (b.back.reverse.flatten, []) else (b.front, b.back)
  let taken := front.take count
  (taken, { b with front := front.drop count, back, size := b.size - taken.length })

end Buffer

structure Machine where
  processes : List Process
  ended : List Ended
  buffers : List Buffer
  sources : List (Nat × List Char)
  files : Table String
  home : String
  nextPid : Nat
  nextId : Nat
  clock : Nat
  limit : Nat
  capture : Capture

namespace Process

def descriptor? (p : Process) (fd : Nat) : Option Descriptor := p.descriptors.lookup fd

def setDescriptor (p : Process) (fd : Nat) (d : Option Descriptor) : Process :=
  let others := p.descriptors.filter (·.1 != fd)
  { p with descriptors := match d with
    | some d => (fd, d) :: others
    | none => others }

def push (p : Process) (f : Frame) : Process := { p with frames := f :: p.frames }

def goto (p : Process) (c : Control) : Process := { p with control := c }

def setStatus (p : Process) (status : Nat) : Process := { p with env := { p.env with status } }

def spend (p : Process) (time : Nat) : Process := { p with time := p.time + time }

def holds (p : Process) (d : Descriptor) : Bool :=
  p.descriptors.any (·.2 == d) ||
    p.frames.any fun
      | .restore saved => saved.any (·.2 == some d)
      | _ => false

end Process

namespace Machine

def process? (m : Machine) (pid : Nat) : Option Process := m.processes.find? (·.pid == pid)

def update (m : Machine) (p : Process) : Machine :=
  { m with processes := m.processes.map fun q => if q.pid == p.pid then p else q }

def add (m : Machine) (p : Process) : Machine := { m with processes := m.processes ++ [p] }

def ending? (m : Machine) (pid : Nat) : Option Ending :=
  (m.ended.find? (·.pid == pid)).map (·.ending)

def children (m : Machine) (pid : Nat) : List Nat :=
  (m.processes.filter (·.parent == pid)).map (·.pid) ++
    (m.ended.filter (·.parent == pid)).map (·.pid)

def forget (m : Machine) (pids : List Nat) : Machine :=
  { m with ended := m.ended.filter fun e => !pids.contains e.pid }

def capacity : Nat := 65536

def buffer? (m : Machine) (id : Nat) : Option Buffer := m.buffers.find? (·.id == id)

def setBuffer (m : Machine) (b : Buffer) : Machine :=
  { m with buffers := m.buffers.map fun c => if c.id == b.id then b else c }

def isHeld (m : Machine) (d : Descriptor) : Bool := m.processes.any (·.holds d)

def isCollected (m : Machine) (id : Nat) : Bool :=
  m.processes.any fun p =>
    match p.control with
    | .collect _ pipe .. => pipe == id
    | _ => false

def newPipe (m : Machine) : Nat × Machine :=
  (m.nextId, { m with nextId := m.nextId + 1, buffers := ⟨m.nextId, [], [], 0⟩ :: m.buffers })

def newSource (m : Machine) (text : List Char) : Descriptor × Machine :=
  (.source m.nextId,
    { m with
      nextId := m.nextId + 1
      sources := (m.nextId, text) :: m.sources })

def hasReader (m : Machine) (id : Nat) : Bool := m.isHeld (.readEnd id) || m.isCollected id

def sweep (m : Machine) : Machine :=
  { m with
    buffers := m.buffers.filter fun b => m.isHeld (.writeEnd b.id) || m.hasReader b.id
    sources := m.sources.filter fun s => m.isHeld (.source s.1) }

def finish (m : Machine) (p : Process) (ending : Ending) : Machine :=
  sweep { m with
    processes := m.processes.filter (·.pid != p.pid)
    ended := ⟨p.pid, p.parent, ending⟩ :: m.ended }

def size (m : Machine) (id : Nat) : Nat := ((m.buffer? id).map (·.size)).getD 0

/-- Whether reading from a descriptor would give something, or the end, at once. -/
def canRead (m : Machine) : Descriptor → Bool
  | .readEnd id => 0 < m.size id || !m.isHeld (.writeEnd id)
  | _ => true

def canWrite (m : Machine) : Descriptor → Bool
  | .writeEnd id => m.size id < capacity || !m.hasReader id
  | _ => true

/-- The next characters of a descriptor, none at its end. -/
def take (m : Machine) (count : Nat) : Descriptor → List Char × Machine
  | .readEnd id =>
    match m.buffer? id with
    | some b =>
      let (taken, b) := b.take count
      (taken, m.setBuffer b)
    | none => ([], m)
  | .source id =>
    let text := (m.sources.lookup id).getD []
    (text.take count,
      { m with sources := m.sources.map fun s => if s.1 == id then (id, text.drop count) else s })
  | _ => ([], m)

inductive Put where
  | rest (chars : List Char)
  | noReader
  | notOpen

def put (m : Machine) (chars : List Char) : Option Descriptor → Except RunError (Put × Machine)
  | some .null => .ok (.rest [], m)
  | some (.host pipe) => do
    let bytes := ⟨(chars.map fun c => c.toNat.toUInt8).toArray⟩
    return (.rest [], { m with capture := ← m.capture.read m.limit pipe bytes })
  | some (.writeEnd id) =>
    if !m.hasReader id then .ok (.noReader, m)
    else
      match m.buffer? id with
      | some b =>
        let room := capacity - b.size
        .ok (.rest (chars.drop room), m.setBuffer (b.put (chars.take room)))
      | none => .ok (.noReader, m)
  | some (.sink path) =>
    let before := (m.files.get? path).getD ""
    .ok (.rest [], { m with files := m.files.insert path (before ++ String.ofList chars) })
  | some (.readEnd _) | some (.source _) | none => .ok (.notOpen, m)

def fork (m : Machine) (p : Process) (delay : Nat) (control : Control) (descriptors : Descriptors)
    (env : Env) : Nat × Machine :=
  (m.nextPid,
    { m with
      nextPid := m.nextPid + 1
      processes := m.processes ++
        [⟨m.nextPid, p.pid, p.time + delay, control, [], env, descriptors, []⟩] })

def isReady (m : Machine) (p : Process) : Bool :=
  let hasEnded (pid : Nat) : Bool := m.ended.any (·.pid == pid) || m.processes.all (·.pid != pid)
  match p.control with
  | .collect child pipe _ _ _ _ =>
    0 < m.size pipe || hasEnded child && !m.isHeld (.writeEnd pipe)
  | .await children => children.all hasEnded
  | .linger children _ => !p.signals.isEmpty || children.all hasEnded
  | .write fd _ _ => ((p.descriptor? fd).map m.canWrite).getD true
  | .read _ | .gather _ => ((p.descriptor? 0).map m.canRead).getD true
  | .copy (some d) _ _ => m.canRead d
  | .stopped => false
  | _ => true

def next? (m : Machine) : Option Process :=
  m.processes.foldl (fun best p =>
    if m.isReady p then
      match best with
      | some b => if p.time < b.time then some p else best
      | none => some p
    else best) none

end Machine

end Stepwise.Shell
