import Stepwise.Debugger.Basic
import Stepwise.Run.StateJson
/-!
What commands report, as JSON. Members without a value are left out, save for the value of a name.
-/

namespace Stepwise

open TraceEntry (optionalMember)

def StepResult.toJson (r : StepResult) : Json :=
  .obj ([("step_id", .str r.stepId), ("type", .str r.stepType), ("success", .bool r.success),
    ("output", r.output)] ++ optionalMember "error" .str r.error ++
    optionalMember "error_kind" (fun k => .str k.name) r.errorKind ++
    optionalMember "risk_level" (fun l => .str l.name) r.riskLevel ++
    optionalMember "stdout" .str r.stdout ++ optionalMember "stderr" .str r.stderr ++
    optionalMember "exit_code" .int r.exitCode)

def Evaluation.toJson : Evaluation → Json
  | token name value source =>
    .obj [("kind", .str "variable"), ("name", .str name), ("value", Json.ofOption .str value),
      ("source", .str source.name)]
  | command r =>
    .obj ([("kind", .str "command"), ("command", .str r.command), ("success", .bool r.success),
      ("output", .str r.output)] ++ optionalMember "stdout" .str r.stdout ++
      optionalMember "stderr" .str r.stderr ++ optionalMember "exit_code" .int r.exitCode ++
      optionalMember "error" .str r.error ++ [("risk_level", .str r.riskLevel.name)])
  | literal value => .obj [("kind", .str "literal"), ("value", .str value)]

def Inspection.toJson (i : Inspection) : Json :=
  .obj [("name", .str i.name), ("value", Json.ofOption .str i.value),
    ("type", .str i.valueType.name), ("length", .nat i.length), ("source", .str i.source.name)]

end Stepwise
