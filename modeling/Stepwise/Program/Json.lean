import Stepwise.Program.Basic
import Stepwise.Json.Decode
import Stepwise.Json.Reader
/-!
Programs as JSON. Optional members that are missing get their defaults; a description that is empty
is not written.
-/

namespace Stepwise

open Json (Decoder Members Piece Body)

def NoteLevel.names : List (String × NoteLevel) :=
  [("info", .info), ("warning", .warning), ("error", .error)]

namespace Condition

def toJson : Condition → Json
  | equality operand value =>
    .obj [("type", .str "equality_check"), ("variable", .str operand), ("value", .str value)]
  | contains operand value =>
    .obj [("type", .str "contains_check"), ("variable", .str operand), ("value", .str value)]
  | boolean expression => .obj [("type", .str "boolean_check"), ("expression", .str expression)]

inductive Tag where
  | equality
  | contains
  | boolean

def tags : List (String × Tag) :=
  [("equality_check", .equality), ("contains_check", .contains), ("boolean_check", .boolean)]

def comparison (make : String → String → Condition) (m : Members) : Piece Condition :=
  make <$> m.required "variable" Json.text <*> m.required "value" Json.text

def decode : Decoder Condition := fun j => do
  let (tag, body) ← Json.splitTagged "Condition" "type" tags true j
  match tag with
  | .equality =>
    body.read "Condition::EqualityCheck" ["variable", "value"] (comparison equality)
  | .contains =>
    body.read "Condition::ContainsCheck" ["variable", "value"] (comparison contains)
  | .boolean =>
    body.read "Condition::BooleanCheck" ["expression"] fun m =>
      boolean <$> m.required "expression" Json.text

end Condition

namespace Action

def toJson : Action → Json
  | command tool line target =>
    .obj [("type", .str "command"), ("tool", .str tool), ("command", .str line),
      ("assign_to", Json.ofOption .str target)]
  | log message level =>
    .obj [("type", .str "log"), ("message", .str message), ("level", .str level.name)]

inductive Tag where
  | command
  | log

def tags : List (String × Tag) := [("command", .command), ("log", .log)]

def decode : Decoder Action := fun j => do
  let (tag, body) ← Json.splitTagged "Action" "type" tags true j
  match tag with
  | .command =>
    body.read "Action::Command" ["tool", "command", "assign_to"] fun m =>
      command <$> m.optional "tool" Json.text "" <*> m.required "command" Json.text <*>
        m.optional "assign_to" (Json.orNull Json.text) none
  | .log =>
    body.read "Action::Log" ["message", "level"] fun m =>
      log <$> m.required "message" Json.text <*>
        m.optional "level" (Json.choice NoteLevel.names true) .info

end Action

namespace ChoiceOption

def toJson (o : ChoiceOption) : Json :=
  .obj [("description", .str o.description), ("action", o.action.toJson)]

def decode : Decoder ChoiceOption :=
  Json.record "struct ChoiceOption" ["description", "action"] .inSequence fun m =>
    mk <$> m.optional "description" Json.text "" <*> m.required "action" Action.decode

end ChoiceOption

namespace StepKind

def members : StepKind → List (String × Json)
  | command tool line parameters target =>
    [("type", .str "command"), ("tool", .str tool), ("command", .str line),
      ("parameters", .obj parameters.entries), ("assign_to", Json.ofOption .str target)]
  | conditional condition onTrue onFalse =>
    [("type", .str "conditional"), ("condition", condition.toJson),
      ("true_branch", Json.ofOption Action.toJson onTrue),
      ("false_branch", Json.ofOption Action.toJson onFalse)]
  | assignment target value name =>
    [("type", .str "assignment"), ("assign_to", .str target), ("value", .str value),
      ("name", Json.ofOption .str name)]
  | choice options => [("type", .str "choice"), ("options", .arr (options.map (·.toJson)))]
  | analysis input extract =>
    [("type", .str "analysis"), ("input", Json.texts input), ("extract", Json.texts extract)]
  | note level message =>
    [("type", .str "note"), ("level", .str level.name), ("message", .str message)]

inductive Tag where
  | command
  | conditional
  | assignment
  | choice
  | analysis
  | note

def tags : List (String × Tag) :=
  [("command", .command), ("conditional", .conditional), ("assignment", .assignment),
    ("choice", .choice), ("analysis", .analysis), ("note", .note)]

def ofMembers (tag : Tag) (m : Members) : Piece StepKind :=
  match tag with
  | .command =>
    command <$> m.optional "tool" Json.text "" <*> m.required "command" Json.text <*>
      m.optional "parameters" Json.freeTable Table.empty <*>
      m.optional "assign_to" (Json.orNull Json.text) none
  | .conditional =>
    conditional <$> m.required "condition" Condition.decode <*>
      m.optional "true_branch" (Json.orNull Action.decode) none <*>
      m.optional "false_branch" (Json.orNull Action.decode) none
  | .assignment =>
    assignment <$> m.required "assign_to" Json.text <*> m.required "value" Json.text <*>
      m.optional "name" (Json.orNull Json.text) none
  | .choice => choice <$> m.required "options" (Json.listOf ChoiceOption.decode)
  | .analysis =>
    analysis <$> m.optional "input" (Json.listOf Json.text) [] <*>
      m.optional "extract" (Json.listOf Json.text) []
  | .note =>
    note <$> m.optional "level" (Json.choice NoteLevel.names true) .info <*>
      m.required "message" Json.text

def decodeMembers (members : List (String × Json)) : Except DecodeError StepKind := do
  let (tag, body) ← Json.splitMembers "type" tags true members
  body.read "StepKind" [] (ofMembers tag)

end StepKind

namespace Step

def toJson (s : Step) : Json :=
  .obj (("id", .str s.id) ::
    (if s.description.isEmpty then [] else [("description", .str s.description)]) ++ s.kind.members)

def decode : Decoder Step
  | .obj members => do
    let (id, description) ← Json.fromMembers (fun m =>
      Prod.mk <$> m.required "id" Json.text <*> m.optional "description" Json.text "") members
    let rest := members.filter fun m => m.1 != "id" && m.1 != "description"
    return ⟨id, description, ← StepKind.decodeMembers rest⟩
  | j => Json.wrong "struct Step" j

end Step

namespace Procedure

def toJson (p : Procedure) : Json :=
  .obj [("id", .str p.id), ("name", .str p.name), ("steps", .arr (p.steps.map (·.toJson)))]

def decode : Decoder Procedure :=
  Json.record "struct Procedure" ["id", "name", "steps"] .inArray fun m =>
    mk <$> m.required "id" Json.text <*> m.optional "name" Json.text "" <*>
      m.optional "steps" (Json.listOf Step.decode) []

end Procedure

namespace ErrorHandling

def toJson (e : ErrorHandling) : Json :=
  .obj [("on_tool_error", .str e.onToolError), ("on_condition_error", .str e.onConditionError),
    ("timeout", Json.ofOption Json.nat e.timeout)]

def decode : Decoder ErrorHandling :=
  Json.record "struct ErrorHandling" ["on_tool_error", "on_condition_error", "timeout"] .inArray
    fun m =>
      mk <$> m.optional "on_tool_error" Json.text "stop" <*>
        m.optional "on_condition_error" Json.text "stop" <*>
        m.optional "timeout" (Json.orNull Json.wide) none

end ErrorHandling

namespace Program

def toJson (p : Program) : Json :=
  .obj [("name", .str p.name), ("tools", Json.texts p.tools),
    ("procedures", .arr (p.procedures.map (·.toJson))),
    ("execution_order", Json.texts p.executionOrder),
    ("global_memory", .obj p.globalMemory.entries), ("error_handling", p.errorHandling.toJson)]

def fields : List String :=
  ["name", "tools", "procedures", "execution_order", "global_memory", "error_handling"]

def decode : Decoder Program :=
  Json.record "struct Program" fields .inArray fun m =>
    mk <$> m.required "name" Json.text <*> m.optional "tools" (Json.listOf Json.text) [] <*>
      m.required "procedures" (Json.listOf Procedure.decode) <*>
      m.optional "execution_order" (Json.listOf Json.text) [] <*>
      m.optional "global_memory" Json.freeTable Table.empty <*>
      m.optional "error_handling" ErrorHandling.decode .standard

/-- A step is kept whole, repeated members and all: which of them matter depends on its kind. -/
def stepShape : Json.Shape :=
  let action := .record [("type", .free)] true
  .record [("condition", .record [("type", .free)] true), ("true_branch", action),
    ("false_branch", action),
    ("options", .list (.record [("description", .free), ("action", action)] true))] true

def shape : Json.Shape :=
  .record [("name", .free), ("tools", .free),
    ("procedures", .list (.record [("id", .free), ("name", .free), ("steps", .list stepShape)]
      false)),
    ("execution_order", .free), ("global_memory", .free),
    ("error_handling", .record [("on_tool_error", .free), ("on_condition_error", .free),
      ("timeout", .free)] false)] false

def ofText? (s : String) : Option Program :=
  (Json.shapedText? shape s).bind fun j => (decode j).toOption

end Program

end Stepwise
