import Stepwise.Session.Registry
import Stepwise.Toml.Quoted
/-!
The settings of the program: what bounds the sessions, the shell that runs commands, and how much is
logged.
-/

namespace Stepwise

structure Settings where
  limits : SessionLimits
  shell : String
  /-- What tells the shell that a command follows. -/
  shellArgument : String
  logLevel : String
  deriving DecidableEq, Repr

inductive SettingsFault where
  | unreadable
  | unfit
  | noSessions
  | noSteps
  | unwritable
  deriving DecidableEq, Repr

namespace SettingsFault

def message : SettingsFault → String
  | unreadable => "Failed to load configuration"
  | unfit => "Invalid configuration"
  | noSessions => "sessions.max_sessions must be at least 1"
  | noSteps => "sessions.max_steps must be at least 1"
  | unwritable => "Failed to serialize configuration"

def cause? : SettingsFault → Option String
  | unreadable => some "no such file, or one that says nothing"
  | unfit => some "a value is missing or of another kind"
  | unwritable => some "out-of-range value for u64 type"
  | _ => none

def describe (f : SettingsFault) : String :=
  match f.cause? with
  | some cause => f.message ++ ": " ++ cause
  | none => f.message

end SettingsFault

namespace Settings

def standard : Settings := ⟨⟨10, 3600, 1000⟩, "sh", "-c", "info"⟩

def check (s : Settings) : Except SettingsFault Settings :=
  if s.limits.maxSessions = 0 then .error .noSessions
  else if s.limits.maxSteps = 0 then .error .noSteps
  else .ok s

def lineOf (name value : String) : String := name ++ " = " ++ value ++ "\n"

/-- The settings as a TOML text, whose integers have a sign and 64 bits. -/
def toToml (s : Settings) : Except SettingsFault String :=
  let numbers := [s.limits.maxSessions, s.limits.idleTimeoutSecs, s.limits.maxSteps]
  if numbers.all (· < Nat.pow 2 63) then
    .ok ("[sessions]\n" ++ lineOf "max_sessions" (toString s.limits.maxSessions) ++
      lineOf "idle_timeout_secs" (toString s.limits.idleTimeoutSecs) ++
      lineOf "max_steps" (toString s.limits.maxSteps) ++
      "\n[executor]\n" ++ lineOf "shell" (Toml.Quoted.write s.shell) ++
      lineOf "shell_arg" (Toml.Quoted.write s.shellArgument) ++
      "\n[logging]\n" ++ lineOf "level" (Toml.Quoted.write s.logLevel))
  else .error .unwritable

end Settings

end Stepwise
