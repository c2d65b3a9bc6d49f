import Stepwise.Shell.Files
import Stepwise.Text.Utf8
import Stepwise.Time
/-!
What surrounds a run: a clock, files, a current directory and an environment.
-/

namespace Stepwise

def Timestamp.plusNanos (t : Timestamp) (nanos : Nat) : Timestamp :=
  ⟨t.seconds + ((t.nanos + nanos) / 1000000000 : Nat), (t.nanos + nanos) % 1000000000⟩

structure World where
  clock : Timestamp
  /-- By their whole paths; paths and texts are octets, each the character of that number. -/
  files : Table String
  directory : String
  environment : Table String

inductive ReadError where
  | noSuchFile
  | notDirectory
  | isDirectory
  deriving DecidableEq, Repr

def ReadError.message : ReadError → String
  | noSuchFile => "No such file or directory (os error 2)"
  | notDirectory => "Not a directory (os error 20)"
  | isDirectory => "Is a directory (os error 21)"

namespace World

open Shell

def whole (w : World) (path : String) : String := Files.absolute w.directory (Text.octets path)

def isDirectory (w : World) (path : String) : Bool :=
  Files.isDirectory w.files w.directory (w.whole path)

def file? (w : World) (path : String) : Option String :=
  if path.isEmpty || path.endsWith "/" then none else w.files.get? (w.whole path)

def isThere (w : World) (path : String) : Bool :=
  (w.file? path).isSome || (!path.isEmpty && w.isDirectory path)

def isBlocked (w : World) (path : String) : Bool :=
  let parts := Files.parts (w.whole path)
  (path.endsWith "/" && w.files.contains (w.whole path)) ||
    (List.range parts.length).any fun n => w.files.contains (Files.ofParts (parts.take n))

def read (w : World) (path : String) : Except ReadError String :=
  match w.file? path with
  | some octets => .ok (Text.ofOctets (Text.bytesOf octets))
  | none =>
    if w.isDirectory path ∧ ¬ path.isEmpty then .error .isDirectory
    else if w.isBlocked path then .error .notDirectory
    else .error .noSuchFile

def withFile (w : World) (path text : String) : World :=
  { w with files := w.files.insert (w.whole path) (Text.octets text) }

def usualEnvironment (directory : String) : Table String :=
  Table.ofList [("HOME", "/root"),
    ("PATH", "/usr/local/sbin:/usr/local/bin:/usr/sbin:/usr/bin:/sbin:/bin"), ("PWD", directory)]

end World

end Stepwise
