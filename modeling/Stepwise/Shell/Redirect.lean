import Stepwise.Shell.Files
import Stepwise.Shell.Machine
/-!
Carrying out redirections. The places that descriptors had before are remembered, so that they can
be put back. What cannot be opened is said in words, to where the error output leads by then, and
leaves later redirections undone.
-/

namespace Stepwise.Shell

/-- A process whose descriptors have been led elsewhere, and where they were led before, the last
change first. -/
structure Redirected where
  process : Process
  machine : Machine
  saved : List (Nat × Option Descriptor)

namespace Process

def openInput (p : Process) (m : Machine) (path : String) : Except String (Descriptor × Machine) :=
  let whole := Files.absolute p.env.directory path
  match m.files.get? whole with
  | some text => .ok (m.newSource text.toList)
  | none =>
    if whole = "/dev/null" then .ok (.null, m)
    else if whole = "/dev/stdin" ∨ whole = "/dev/fd/0" then
      match p.descriptor? 0 with
      | some d => .ok (d, m)
      | none => .error ("cannot open " ++ path ++ ": No such file")
    else if Files.exists? m.files m.home whole then .ok (m.newSource [])
    else .error ("cannot open " ++ path ++ ": No such file")

def openOutput (p : Process) (m : Machine) (path : String) (mode : OutputMode) :
    Except String (Descriptor × Machine) :=
  let whole := Files.absolute p.env.directory path
  let existing (fd : Nat) : Except String (Descriptor × Machine) :=
    match p.descriptor? fd with
    | some d => .ok (d, m)
    | none => .error ("cannot create " ++ path ++ ": No such device or address")
  if whole = "/dev/null" then .ok (.null, m)
  else if whole = "/dev/stdout" ∨ whole = "/dev/fd/1" then existing 1
  else if whole = "/dev/stderr" ∨ whole = "/dev/fd/2" then existing 2
  else if path.isEmpty then .error "cannot create : Directory nonexistent"
  else if Files.isDirectory m.files m.home whole then
    .error ("cannot create " ++ path ++ ": Is a directory")
  else if !Files.isDirectory m.files m.home (Files.parent whole) then
    .error ("cannot create " ++ path ++ ": Directory nonexistent")
  else if p.env.hasOption 'C' ∧ mode = .empty ∧ m.files.contains whole then
    .error ("cannot create " ++ path ++ ": File exists")
  else
    let text := if mode = .append then (m.files.get? whole).getD "" else ""
    .ok (.sink whole, { m with files := m.files.insert whole text })

def target (p : Process) (m : Machine) : Opening → Except String (Nat × Option Descriptor × Machine)
  | .input fd path => do
    let (d, m) ← p.openInput m path
    return (fd, some d, m)
  | .output fd path mode => do
    let (d, m) ← p.openOutput m path mode
    return (fd, some d, m)
  | .both fd path => do
    let (d, m) ← if m.files.contains (Files.absolute p.env.directory path) then p.openInput m path
      else p.openOutput m path .append
    return (fd, some d, m)
  | .here fd body =>
    let (d, m) := m.newSource body.toList
    return (fd, some d, m)
  | .duplicate fd "-" => return (fd, none, m)
  | .duplicate fd text =>
    match text.toNat? with
    | none => throw ("Bad fd number")
    | some n =>
      match p.descriptor? n with
      | some d => return (fd, some d, m)
      | none => throw (text ++ ": Bad file descriptor")

def redirect (p : Process) (m : Machine) (saved : List (Nat × Option Descriptor)) :
    List Opening → Redirected × Option String
  | [] => (⟨p, m, saved⟩, none)
  | o :: rest =>
    match p.target m o with
    | .error message => (⟨p, m, saved⟩, some message)
    | .ok (fd, d, m) =>
      redirect (p.setDescriptor fd d) m ((fd, p.descriptor? fd) :: saved) rest

def restore (p : Process) (saved : List (Nat × Option Descriptor)) : Process :=
  saved.foldl (fun p (fd, d) => p.setDescriptor fd d) p

end Process

end Stepwise.Shell
