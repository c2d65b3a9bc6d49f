import Stepwise.Table
/-!
Paths, and which of them lead to something. The files that commands write are kept as texts by
their whole paths; beside them there are the directories and programs that any system has.
-/

namespace Stepwise.Shell

namespace Files

def parts (path : String) : List String :=
  ((path.splitOn "/").foldl (fun done part =>
    if part = "" ∨ part = "." then done
    else if part = ".." then done.drop 1
    else part :: done) []).reverse

def ofParts (ps : List String) : String := "/" ++ "/".intercalate ps

def absolute (directory path : String) : String :=
  if path.startsWith "/" then ofParts (parts path) else ofParts (parts (directory ++ "/" ++ path))

def directories : List String := [
  "/", "/bin", "/boot", "/dev", "/dev/fd", "/etc", "/home", "/lib", "/media", "/mnt", "/opt",
  "/proc", "/root", "/run", "/sbin", "/srv", "/sys", "/tmp", "/usr", "/usr/bin", "/usr/lib",
  "/usr/local", "/usr/local/bin", "/usr/sbin", "/usr/share", "/var", "/var/lib", "/var/log",
  "/var/tmp"]

def programs : List String := [
  "[", "bash", "cat", "dash", "echo", "false", "printf", "sh", "sleep", "test", "true"]

def others : List String := [
  "/etc/group", "/etc/hosts", "/etc/passwd", "/etc/resolv.conf", "/proc/self/stat", "/dev/null",
  "/dev/zero", "/dev/full", "/dev/random", "/dev/urandom", "/dev/tty", "/dev/stdin", "/dev/stdout",
  "/dev/stderr"]

def programDirectories : List String := ["/bin", "/usr/bin"]

def program? (path : String) : Option String :=
  programs.find? fun name => programDirectories.any fun d => d ++ "/" ++ name == path

def parent (path : String) : String := ofParts ((parts path).dropLast)

def programPath? (name : String) : Option String :=
  if programs.contains name then some ("/usr/bin/" ++ name) else none

section

variable (files : Table String) (home : String)

def isDirectory (path : String) : Bool :=
  directories.contains path || path == home || home.startsWith (path ++ "/") ||
    files.keys.any fun f => f.startsWith (path ++ "/")

def exists? (path : String) : Bool :=
  isDirectory files home path || files.contains path || others.contains path ||
    (program? path).isSome

def listing (directory : String) : List String :=
  let start := if directory.endsWith "/" then directory else directory ++ "/"
  let inside := files.keys.filterMap fun f =>
    if f.startsWith start then ((f.drop start.length).toString.splitOn "/").head? else none
  (Names.ofNames inside).keys

def holds (directory : String) (question : Char) (path : String) : Bool :=
  let path := if path.isEmpty then "" else absolute directory path
  if path.isEmpty then false
  else
    match question with
    | 'e' | 'r' | 'w' | 'O' | 'G' => exists? files home path
    | 'f' => files.contains path || (program? path).isSome ||
        others.contains path && !path.startsWith "/dev/"
    | 'd' => isDirectory files home path
    | 'x' => isDirectory files home path || (program? path).isSome
    | 's' => isDirectory files home path || ((files.get? path).getD "") != "" ||
        (program? path).isSome || others.contains path && !path.startsWith "/dev/"
    | 'c' => others.contains path && path.startsWith "/dev/"
    | _ => false

end

end Files

end Stepwise.Shell
