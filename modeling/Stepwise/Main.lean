import Stepwise.Console.Invoke
/-!
The program itself. It takes a picture of the world (the files of the current directory and those
that the arguments name, the environment and the clock), lets the invocation run in it, and writes
the files that have changed.
-/

namespace Stepwise.Outside

def readOctets (path : String) : IO (Option String) :=
  try
    let bytes ← IO.FS.readBinFile path
    return some (String.ofList (bytes.toList.map fun b => Char.ofNat b.toNat))
  catch _ => return none

def environment : IO (Table String) := do
  let octets := (← readOctets "/proc/self/environ").getD ""
  let text := Text.ofOctets (Text.bytesOf octets)
  return Table.ofList ((text.splitOn "\x00").filterMap fun v =>
    match v.toList.dropWhile (· ≠ '=') with
    | '=' :: value => some (String.ofList (v.toList.takeWhile (· ≠ '=')), String.ofList value)
    | _ => none)

/-- The seconds between 1970 and now, from the start of the machine and the time since. -/
def seconds : IO Int := do
  let stat := (← readOctets "/proc/stat").getD ""
  let up := (← readOctets "/proc/uptime").getD ""
  let start := (stat.splitOn "\n").findSome? fun l =>
    match l.splitOn " " with
    | ["btime", n] => n.toNat?
    | _ => none
  return start.getD 0 + (Decimal.natOf (up.toList.takeWhile Char.isDigit) : Nat)

def addFiles (w : World) (paths : List String) : IO World := do
  let mut w := w
  for path in paths do
    match ← readOctets path with
    | some octets => w := { w with files := w.files.insert (w.whole path) octets }
    | none => pure ()
  return w

def world (arguments : List String) : IO World := do
  let directory ← IO.currentDir
  let names := (← directory.readDir).toList.map (·.fileName)
  let environment ← environment
  let named := arguments.flatMap fun a => [a, (a.splitOn "=").getLastD a]
  let paths := names ++ named ++ (environment.get? Settings.pathVariable).toList
  addFiles ⟨⟨← seconds, 0⟩, ∅, Text.octets directory.toString, environment⟩ paths

/-- Writes the files that differ from what they were. -/
def writeFiles (before after : World) : IO Unit :=
  for (path, octets) in after.files.entries do
    if before.files.get? path ≠ some octets then
      try IO.FS.writeBinFile (Text.ofOctets (Text.bytesOf path)) (Text.bytesOf octets)
      catch e => IO.eprintln e

def write (t : Transcript) : IO Unit := do
  IO.print t.out
  (← IO.getStdout).flush
  IO.eprint t.err

partial def converse (d : Console.Dialogue World) : IO World := do
  let text ← (← IO.getStdin).getLine
  if text.isEmpty then return d.world
  let a := d.answer text
  write a.transcript
  if a.isLast then return a.dialogue.world else converse a.dialogue

def run (arguments : List String) : IO UInt32 := do
  let before ← world arguments
  match Console.begin before arguments with
  | .report r =>
    write r.transcript
    writeFiles before r.world
    return r.exitCode.toUInt32
  | .dialogue d =>
    write d.opening
    writeFiles before (← converse d)
    return 0

end Stepwise.Outside

def main (arguments : List String) : IO UInt32 := Stepwise.Outside.run arguments
