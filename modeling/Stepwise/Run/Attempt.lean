import Stepwise.Command
import Stepwise.Options
import Stepwise.Run.State
/-!
Trying a command template. A plan asks the host for at most one command, so that what is run, and
what becomes of each answer to it, can be told without running anything. The command is the
template with its tokens filled in, it is judged in that form, and in safe mode one of high risk is
not asked for.
-/

namespace Stepwise

inductive Plan (α : Type) where
  | done (value : α)
  | ask (request : Request) (answered : Reply → Timestamp → α)

namespace Plan

def map (f : α → β) : Plan α → Plan β
  | done a => done (f a)
  | ask request answered => ask request fun reply time => f (answered reply time)

def request? : Plan α → Option Request
  | done _ => none
  | ask request _ => some request

def run (h : Host σ) (world : σ) : Plan α → α × σ
  | done a => (a, world)
  | ask request answered =>
    let (reply, world) := h.run request world
    (answered reply (h.now world), world)

end Plan

inductive Attempt where
  | blocked (command : String) (level : RiskLevel)
  | aborted (command : String) (level : RiskLevel) (error : RunError)
  | finished (command : String) (level : RiskLevel) (output : Output) (time : Timestamp)

def attempt (options : Options) (vars : Variables) (template : String) : Plan Attempt :=
  let command := vars.fill template
  let level := Risk.classify command
  if Risk.isBlocked options.riskLevel level then .done (.blocked command level)
  else
    .ask ⟨command, options.timeoutMs, options.memoryLimit⟩ fun reply time =>
      match reply with
      | .ok output => .finished command level output time
      | .error error => .aborted command level error

end Stepwise
