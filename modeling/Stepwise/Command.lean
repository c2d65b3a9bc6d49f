import Stepwise.Text.Blank
import Stepwise.Time
/-!
Running commands. What runs them is a `Host`: it has clocks, time passes there, and it answers each
request with the command's output or with the reason why there is none. Everything else is stated
for any host.
-/

namespace Stepwise

structure Request where
  command : String
  timeoutMs : Nat
  /-- How many bytes may be written. -/
  limit : Nat
  deriving DecidableEq, Repr

/-- What a finished process wrote, and its exit code unless a signal ended it. -/
structure Output where
  stdout : String
  stderr : String
  exitCode : Option Int
  deriving DecidableEq, Repr

namespace Output

def success (o : Output) : Bool := o.exitCode == some 0

/-- Both outputs without the blanks around them, on lines of their own. -/
def combined (o : Output) : String :=
  let out := Text.trim o.stdout
  let err := Text.trim o.stderr
  if err.isEmpty then out
  else if out.isEmpty then err
  else out ++ "\n" ++ err

end Output

inductive SpawnError where
  | nulByte
  | noSuchFile
  | permissionDenied
  | failed (text : String)
  deriving DecidableEq, Repr

def SpawnError.message : SpawnError → String
  | nulByte => "nul byte found in provided data"
  | noSuchFile => "No such file or directory (os error 2)"
  | permissionDenied => "Permission denied (os error 13)"
  | failed text => text

inductive RunError where
  | spawn (cause : SpawnError)
  | read (text : String)
  | timeout (ms : Nat)
  | overflow (limit : Nat)
  deriving DecidableEq, Repr

def RunError.message : RunError → String
  | spawn cause => "failed to spawn command: " ++ cause.message
  | read text => "failed to read command output: " ++ text
  | timeout ms => "command timed out after " ++ toString ms ++ "ms"
  | overflow limit => "command output exceeded " ++ toString limit ++ " bytes"

abbrev Reply := Except RunError Output

structure Host (σ : Type) where
  now : σ → Timestamp
  /-- Nanoseconds on a clock that nobody sets. -/
  uptime : σ → Nat
  /-- How the world goes on while no command runs. -/
  wait : σ → σ
  run : Request → σ → Reply × σ

structure Span where
  started : Timestamp
  completed : Timestamp
  durationMs : Nat

def Host.span (h : Host σ) (before after : σ) : Span :=
  ⟨h.now before, h.now after, (h.uptime after - h.uptime before) / 1000000⟩

inductive Pipe where
  | stdout
  | stderr
  deriving DecidableEq, Repr

/-- What has been read of the two outputs of a process, under one limit for both. -/
structure Capture where
  stdout : ByteArray
  stderr : ByteArray
  total : Nat

namespace Capture

def empty : Capture := ⟨.empty, .empty, 0⟩

/-- Takes in a chunk, unless the bytes read would then pass the limit. -/
def read (limit : Nat) (c : Capture) (pipe : Pipe) (chunk : ByteArray) : Except RunError Capture :=
  let total := c.total + chunk.size
  if limit < total then .error (.overflow limit)
  else
    match pipe with
    | .stdout => .ok { c with stdout := c.stdout ++ chunk, total }
    | .stderr => .ok { c with stderr := c.stderr ++ chunk, total }

def readAll (limit : Nat) (chunks : List (Pipe × ByteArray)) : Except RunError Capture :=
  chunks.foldlM (fun c (pipe, chunk) => c.read limit pipe chunk) empty

end Capture

end Stepwise
