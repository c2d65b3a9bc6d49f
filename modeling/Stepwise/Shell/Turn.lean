import Stepwise.Shell.Redirect
import Stepwise.Shell.Signal
/-!
What is left after a process has done something: the machine, and the process unless it is gone.
-/

namespace Stepwise.Shell

structure Turn where
  machine : Machine
  process : Option Process

namespace Turn

def stay (m : Machine) (p : Process) : Turn := ⟨m, some p⟩

def done (m : Machine) (p : Process) (status : Nat) : Turn := stay m (p.goto (.done status))

def leap (m : Machine) (p : Process) (l : Leap) : Turn := stay m (p.goto (.leap l))

def write (m : Machine) (p : Process) (fd : Nat) (text : List Char) (status : Nat) : Turn :=
  if text.isEmpty then done m p status else stay m (p.goto (.write fd text status))

def print (m : Machine) (p : Process) (text : String) : Turn := write m p 1 text.toList 0

def complain (m : Machine) (p : Process) (message : String) (status : Nat) : Turn :=
  write m p 2 (p.env.name ++ ": 1: " ++ message ++ "\n").toList status

def fail (m : Machine) (p : Process) (message : String) : Turn :=
  complain m (p.push .fatal) message 2

def refuse (r : Redirected) (message : String) : Turn :=
  complain r.machine (r.process.push (.restore r.saved)) message 2

def settle (t : Turn) : Machine :=
  match t.process with
  | some p => t.machine.update p
  | none => t.machine

def finish (m : Machine) (p : Process) (ending : Ending) : Turn := ⟨m.finish p ending, none⟩

end Turn

def Machine.deliver (m : Machine) (signal : Nat) (q : Process) : Machine :=
  if signal = Signal.exit then m
  else if signal = Signal.kill then m.finish q (.killed signal)
  else
    match (if Signal.isFixed signal then none else q.env.traps.lookup signal) with
    | some "" => m
    | some _ => m.update { q with signals := q.signals ++ [signal] }
    | none =>
      if Signal.isHarmless signal then m
      else if Signal.stops signal then m.update (q.goto .stopped)
      else m.finish q (.killed signal)

end Stepwise.Shell
