import Stepwise.Risk
import Stepwise.Json.Decode
import Stepwise.Json.Reader
/-!
What the operator chooses for a session, and what an earlier analysis of its program said. The
analysis is reported and otherwise not used.
-/

namespace Stepwise

open Json (Decoder)

def RiskLevel.names : List (String × RiskLevel) := RiskLevel.all.map fun l => (l.name, l)

structure Options where
  debugMode : Bool
  timeoutMs : Nat
  /-- How many bytes a command may write, both of its outputs taken together. -/
  memoryLimit : Nat
  autoContinue : Bool
  riskLevel : RiskLevel
  deriving DecidableEq, Repr

namespace Options

def leastTimeout : Nat := 1000

def greatestTimeout : Nat := 300000

def standard : Options := ⟨true, 30000, 1048576, false, .medium⟩

def toJson (o : Options) : Json :=
  .obj [("debug_mode", .bool o.debugMode), ("timeout_ms", .nat o.timeoutMs),
    ("memory_limit_bytes", .nat o.memoryLimit), ("auto_continue", .bool o.autoContinue),
    ("risk_level", .str o.riskLevel.name)]

def decode : Decoder Options :=
  Json.record "struct SessionOptions"
    ["debug_mode", "timeout_ms", "memory_limit_bytes", "auto_continue", "risk_level"] .inArray
    fun m =>
      mk <$> m.optional "debug_mode" Json.flag standard.debugMode <*>
        m.optional "timeout_ms" Json.wide standard.timeoutMs <*>
        m.optional "memory_limit_bytes" Json.size standard.memoryLimit <*>
        m.optional "auto_continue" Json.flag standard.autoContinue <*>
        m.optional "risk_level" (Json.choice RiskLevel.names false) standard.riskLevel

end Options

structure RiskSummary where
  overall : RiskLevel
  highRiskSteps : List String
  deriving DecidableEq

namespace RiskSummary

def toJson (r : RiskSummary) : Json :=
  .obj [("overall", .str r.overall.name), ("high_risk_steps", Json.texts r.highRiskSteps)]

def decode : Decoder RiskSummary :=
  Json.record "struct RiskSummary" ["overall", "high_risk_steps"] .inArray fun m =>
    mk <$> m.required "overall" (Json.choice RiskLevel.names false) <*>
      m.optional "high_risk_steps" (Json.listOf Json.text) []

end RiskSummary

structure Analysis where
  intent : Option String
  riskSummary : Option RiskSummary
  extra : Table Json

namespace Analysis

def toJson (a : Analysis) : Json :=
  .obj ((a.intent.map fun s => ("intent", Json.str s)).toList ++
    (a.riskSummary.map fun r => ("risk_summary", r.toJson)).toList ++ a.extra.entries)

def decode : Decoder Analysis
  | .obj members => do
    let (intent, summary) ← Json.fromMembers (fun m =>
      Prod.mk <$> m.optional "intent" (Json.orNull Json.text) none <*>
        m.optional "risk_summary" (Json.orNull RiskSummary.decode) none) members
    let rest := members.filter fun m => m.1 != "intent" && m.1 != "risk_summary"
    return ⟨intent, summary, Table.ofList rest⟩
  | j => Json.wrong "struct Analysis" j

def shape : Json.Shape :=
  .record [("intent", .free),
    ("risk_summary", .record [("overall", .free), ("high_risk_steps", .free)] false)] true

def ofText? (s : String) : Option Analysis :=
  (Json.shapedText? shape s).bind fun j => (decode j).toOption

end Analysis

end Stepwise
