import Stepwise.Settings.Basic
import Stepwise.Settings.Layers
import Stepwise.Toml.Reader
import Stepwise.World
/-!
Loading settings. Over the standard ones lie those of a file, and over these the ones of the
environment. A file that is named must be there and be readable; the one that is looked for
otherwise may be missing.
-/

namespace Stepwise.Settings

structure Sources where
  path : Option String
  maxSessions : Option Nat
  usesEnvironment : Bool

def Sources.usual : Sources := ⟨none, none, true⟩

def pathVariable : String := "RUNBOOK_CONFIG_PATH"

def usualFile : String := "runbook.toml"

structure Choice where
  path : String
  isRequired : Bool

def Sources.choice? (s : Sources) (w : World) : Option Choice :=
  match s.path with
  | some path => some ⟨path, true⟩
  | none =>
    match w.environment.get? pathVariable with
    | some path => some ⟨path, true⟩
    | none => if w.isThere usualFile then some ⟨usualFile, false⟩ else none

inductive Format where
  | toml
  | json
  deriving DecidableEq, Repr

def Format.all : List Format := [toml, json]

def Format.ending : Format → String
  | toml => "toml"
  | json => "json"

/-- What follows the last dot of a file's name, unless the name begins with it. -/
def ending? (path : String) : Option String :=
  match (path.splitOn "/").reverse.find? fun part => part != "" && part != "." with
  | none => none
  | some name =>
    match (name.splitOn ".").reverse with
    | ending :: before :: rest => if rest.isEmpty ∧ before.isEmpty then none else some ending
    | _ => none

def Format.ofPath? (path : String) : Option Format :=
  (ending? path).bind fun ending => all.find? fun f => f.ending = ending

/-- The octets of a file, without the mark of their order in front. -/
def textOf (octets : String) : String :=
  let cs := match octets.toList with
    | '\xef' :: '\xbb' :: '\xbf' :: rest => rest
    | cs => cs
  Text.ofOctets (Text.bytesOf (String.ofList cs))

def Format.read (f : Format) (text : String) : Option (List (String × Json)) :=
  let value := match f with
    | toml => Toml.ofText? text
    | json => Json.ofText? text
  value.bind fun j =>
    match j with
    | .obj members => some members
    | _ => none

def bare (path : String) : String :=
  String.ofList (path.toList.reverse.dropWhile (· = '/')).reverse

/-- The octets of the file that a path means, and their format, if it has one that is known. A path
may lack its ending. -/
def find? (w : World) (path : String) : Option (String × Option Format) :=
  match w.file? path with
  | some octets => some (octets, Format.ofPath? path)
  | none =>
    Format.all.findSome? fun f =>
      (w.file? (bare path ++ "." ++ f.ending)).map fun octets => (octets, some f)

def readChoice (w : World) (c : Choice) : Except SettingsFault (List (String × Json)) :=
  match find? w c.path with
  | some (octets, some f) =>
    match f.read (textOf octets) with
    | some members => .ok members
    | none => .error .unreadable
  | _ => if c.isRequired then .error .unreadable else .ok []

def standardLayer : Json :=
  .obj [("executor", .obj [("shell", .str standard.shell),
      ("shell_arg", .str standard.shellArgument)]),
    ("logging", .obj [("level", .str standard.logLevel)]),
    ("sessions", .obj [("idle_timeout_secs", .nat standard.limits.idleTimeoutSecs),
      ("max_sessions", .nat standard.limits.maxSessions),
      ("max_steps", .nat standard.limits.maxSteps)])]

/-- The values of a section, which may be a table or an array of them in their order. -/
def section? (names : List String) (j : Json) : Option (List Json) :=
  match j with
  | .obj members => names.mapM fun name => members.lookup name
  | .arr items => if names.length ≤ items.length then some (items.take names.length) else none
  | _ => none

def decode (j : Json) : Option Settings := do
  let sessions ← section? ["max_sessions", "idle_timeout_secs", "max_steps"]
    (← j.member? "sessions")
  let executor ← section? ["shell", "shell_arg"] (← j.member? "executor")
  let logging ← section? ["level"] (← j.member? "logging")
  match ← sessions.mapM unsigned?, ← (executor ++ logging).mapM text? with
  | [maxSessions, idleTimeout, maxSteps], [shell, argument, level] =>
    some ⟨⟨maxSessions, idleTimeout, maxSteps⟩, shell, argument, level⟩
  | _, _ => none

def load (w : World) (s : Sources) : Except SettingsFault Settings := do
  let file ← match s.choice? w with
    | some c => readChoice w c
    | none => .ok []
  let given := if s.usesEnvironment then ofEnvironment w.environment else []
  match decode (lay given (lay file standardLayer)) with
  | none => .error .unfit
  | some settings =>
    let limits := settings.limits
    let limits := { limits with maxSessions := s.maxSessions.getD limits.maxSessions }
    check { settings with limits }

end Stepwise.Settings
