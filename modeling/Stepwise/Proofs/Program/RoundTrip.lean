import Stepwise.Program.Json
import Stepwise.Proofs.Json.InOrder
import Stepwise.Proofs.Program.WellFormed
/-!
Programs written and read back. A program is found again in what is written of it, in whatever order
its members come to be read; only values that a program holds without looking at them keep the order
in which they were read.
-/

namespace Stepwise

open Json (Arranges Spelt Makes Members Piece splitTagged)

def StepKind.mapFree (f : Json → Json) : StepKind → StepKind
  | command tool line parameters target => command tool line (parameters.map f) target
  | kind => kind

def Step.mapFree (f : Json → Json) (s : Step) : Step := { s with kind := s.kind.mapFree f }

def Procedure.mapFree (f : Json → Json) (p : Procedure) : Procedure :=
  { p with steps := p.steps.map (·.mapFree f) }

/-- The program with its free values changed, those in its memory and in parameters. -/
def Program.mapFree (f : Json → Json) (p : Program) : Program :=
  { p with procedures := p.procedures.map (·.mapFree f), globalMemory := p.globalMemory.map f }

variable {f : Json → Json}

theorem NoteLevel.decode_written (arranges : Arranges f) (insideStep : Bool) (level : NoteLevel) :
    Json.choice names insideStep (f (.str level.name)) = .ok level := by
  apply arranges.choice
  cases level with
  | info => rfl
  | warning => rfl
  | error => rfl

theorem Condition.comparison_written (arranges : Arranges f) (make : String → String → Condition)
    {items : List (String × Json)} {operand value : String}
    (spelt : Spelt f items [("variable", .str operand), ("value", .str value)]) :
    (comparison make ⟨items, .missing, false⟩).toExcept = .ok (make operand value) := by
  rw [comparison, spelt.required "variable" (by simp) (arranges.text operand),
    spelt.required "value" (by simp) (arranges.text value)]
  rfl

theorem Condition.decode_written (arranges : Arranges f) (c : Condition) :
    decode (f c.toJson) = .ok c := by
  cases c with
  | equality operand value =>
    obtain ⟨items, split, spelt⟩ : ∃ items, splitTagged "Condition" "type" tags true
          (f (equality operand value).toJson) = .ok (.equality, .members items) ∧
        Spelt f items [("variable", .str operand), ("value", .str value)] :=
      arranges.splitTagged "Condition" tags true rfl (by simp)
    rw [decode, split]
    exact comparison_written arranges equality spelt
  | contains operand value =>
    obtain ⟨items, split, spelt⟩ : ∃ items, splitTagged "Condition" "type" tags true
          (f (contains operand value).toJson) = .ok (.contains, .members items) ∧
        Spelt f items [("variable", .str operand), ("value", .str value)] :=
      arranges.splitTagged "Condition" tags true rfl (by simp)
    rw [decode, split]
    exact comparison_written arranges contains spelt
  | boolean expression =>
    obtain ⟨items, split, spelt⟩ : ∃ items, splitTagged "Condition" "type" tags true
          (f (boolean expression).toJson) = .ok (.boolean, .members items) ∧
        Spelt f items [("expression", .str expression)] :=
      arranges.splitTagged "Condition" tags true rfl (by simp)
    rw [decode, split]
    simp only [bind, Except.bind, Json.Body.read, Json.fromMembers]
    rw [spelt.required "expression" (by simp) (arranges.text expression)]
    rfl

theorem Action.decode_written (arranges : Arranges f) (a : Action) :
    decode (f a.toJson) = .ok a := by
  cases a with
  | command tool line target =>
    obtain ⟨items, split, spelt⟩ : ∃ items, splitTagged "Action" "type" tags true
          (f (command tool line target).toJson) = .ok (.command, .members items) ∧
        Spelt f items [("tool", .str tool), ("command", .str line),
          ("assign_to", Json.ofOption .str target)] :=
      arranges.splitTagged "Action" tags true rfl (by simp)
    rw [decode, split]
    simp only [bind, Except.bind, Json.Body.read, Json.fromMembers]
    rw [spelt.optional "tool" (by simp) (arranges.text tool),
      spelt.required "command" (by simp) (arranges.text line),
      spelt.optional "assign_to" (by simp) (arranges.textOrNull target)]
    rfl
  | log message level =>
    obtain ⟨items, split, spelt⟩ : ∃ items, splitTagged "Action" "type" tags true
          (f (log message level).toJson) = .ok (.log, .members items) ∧
        Spelt f items [("message", .str message), ("level", .str level.name)] :=
      arranges.splitTagged "Action" tags true rfl (by simp)
    rw [decode, split]
    simp only [bind, Except.bind, Json.Body.read, Json.fromMembers]
    rw [spelt.required "message" (by simp) (arranges.text message),
      spelt.optional "level" (by simp) (level.decode_written arranges true)]
    rfl

theorem Action.decode_null (a : Action) : decode .null ≠ .ok a := by
  simp [decode, splitTagged, Json.wrong, bind, Except.bind]

theorem ChoiceOption.decode_written (arranges : Arranges f) (o : ChoiceOption) :
    decode (f o.toJson) = .ok o := by
  obtain ⟨items, written, spelt⟩ := arranges.spelt
    [("description", .str o.description), ("action", o.action.toJson)] (by simp)
  rw [toJson, written]
  simp only [decode, Json.record, Json.fromMembers]
  rw [spelt.optional "description" (by simp) (arranges.text o.description),
    spelt.required "action" (by simp) (o.action.decode_written arranges)]
  rfl

theorem ErrorHandling.decode_written (arranges : Arranges f) (e : ErrorHandling) :
    decode (f e.toJson) = .ok e := by
  have timeout : Json.orNull Json.wide (f (Json.ofOption Json.nat e.timeout)) = .ok e.timeout :=
    arranges.orNull (by simp [Json.wide, Json.unsigned, Json.wrong]) fun n _ => arranges.wide n
  obtain ⟨items, written, spelt⟩ := arranges.spelt
    [("on_tool_error", .str e.onToolError), ("on_condition_error", .str e.onConditionError),
      ("timeout", Json.ofOption Json.nat e.timeout)] (by simp)
  rw [toJson, written]
  simp only [decode, Json.record, Json.fromMembers]
  rw [spelt.optional "on_tool_error" (by simp) (arranges.text e.onToolError),
    spelt.optional "on_condition_error" (by simp) (arranges.text e.onConditionError),
    spelt.optional "timeout" (by simp) timeout]
  rfl

namespace StepKind

theorem decode_written (arranges : Arranges f) (k : StepKind) {items : List (String × Json)}
    (spelt : Spelt f items k.members) : decodeMembers items = .ok (k.mapFree f) := by
  cases k with
  | command tool line parameters target =>
    obtain ⟨rest, split, spelt⟩ := spelt.splitMembers arranges tags true rfl
    rw [decodeMembers, split]
    simp only [bind, Except.bind, Json.Body.read, Json.fromMembers, ofMembers]
    rw [spelt.optional "tool" (by simp) (arranges.text tool),
      spelt.required "command" (by simp) (arranges.text line),
      spelt.optional "parameters" (by simp) (arranges.freeTable parameters),
      spelt.optional "assign_to" (by simp) (arranges.textOrNull target)]
    rfl
  | conditional condition onTrue onFalse =>
    have branch (o : Option Action) :=
      arranges.orNull Action.decode_null fun a (_ : a ∈ o) => a.decode_written arranges
    obtain ⟨rest, split, spelt⟩ := spelt.splitMembers arranges tags true rfl
    rw [decodeMembers, split]
    simp only [bind, Except.bind, Json.Body.read, Json.fromMembers, ofMembers]
    rw [spelt.required "condition" (by simp) (condition.decode_written arranges),
      spelt.optional "true_branch" (by simp) (branch onTrue),
      spelt.optional "false_branch" (by simp) (branch onFalse)]
    rfl
  | assignment target value name =>
    obtain ⟨rest, split, spelt⟩ := spelt.splitMembers arranges tags true rfl
    rw [decodeMembers, split]
    simp only [bind, Except.bind, Json.Body.read, Json.fromMembers, ofMembers]
    rw [spelt.required "assign_to" (by simp) (arranges.text target),
      spelt.required "value" (by simp) (arranges.text value),
      spelt.optional "name" (by simp) (arranges.textOrNull name)]
    rfl
  | choice options =>
    have read := arranges.listOf fun o (_ : o ∈ options) => o.decode_written arranges
    obtain ⟨rest, split, spelt⟩ := spelt.splitMembers arranges tags true rfl
    rw [decodeMembers, split]
    simp only [bind, Except.bind, Json.Body.read, Json.fromMembers, ofMembers]
    rw [spelt.required "options" (by simp) read, List.map_id']
    rfl
  | analysis input extract =>
    obtain ⟨rest, split, spelt⟩ := spelt.splitMembers arranges tags true rfl
    rw [decodeMembers, split]
    simp only [bind, Except.bind, Json.Body.read, Json.fromMembers, ofMembers]
    rw [spelt.optional "input" (by simp) (arranges.texts input),
      spelt.optional "extract" (by simp) (arranges.texts extract)]
    rfl
  | note level message =>
    obtain ⟨rest, split, spelt⟩ := spelt.splitMembers arranges tags true rfl
    rw [decodeMembers, split]
    simp only [bind, Except.bind, Json.Body.read, Json.fromMembers, ofMembers]
    rw [spelt.optional "level" (by simp) (level.decode_written arranges true),
      spelt.required "message" (by simp) (arranges.text message)]
    rfl

theorem names_distinct (k : StepKind) :
    ("id" :: "description" :: k.members.map (·.1)).Nodup := by
  cases k <;> simp [members]

theorem mem_apart {k : StepKind} {m : String × Json} (member : m ∈ k.members) :
    m.1 ≠ "id" ∧ m.1 ≠ "description" := by
  obtain ⟨noId, later⟩ := List.nodup_cons.1 k.names_distinct
  obtain ⟨noDescription, _⟩ := List.nodup_cons.1 later
  have name : m.1 ∈ k.members.map (·.1) := List.mem_map_of_mem member
  exact ⟨fun same => noId (by simp [← same, name]), fun same => noDescription (same ▸ name)⟩

theorem ofMembers_inOrder {tag : Tag} {m : Members} {k : StepKind} (inOrder : m.InOrder)
    (read : ofMembers tag m = .ok k) : k.mapFree Json.sorted = k := by
  cases tag with
  | command =>
    obtain ⟨_, target, read₁, _, rfl⟩ := Piece.seq_eq_ok.1 read
    obtain ⟨_, parameters, read₂, found, rfl⟩ := Piece.seq_eq_ok.1 read₁
    obtain ⟨_, line, read₃, _, rfl⟩ := Piece.seq_eq_ok.1 read₂
    obtain ⟨tool, _, rfl⟩ := Piece.map_eq_ok.1 read₃
    have same : parameters.map Json.sorted = parameters :=
      Makes.freeTable.optional rfl inOrder found
    rw [mapFree, same]
  | conditional =>
    obtain ⟨_, onFalse, read₁, _, rfl⟩ := Piece.seq_eq_ok.1 read
    obtain ⟨_, onTrue, read₂, _, rfl⟩ := Piece.seq_eq_ok.1 read₁
    obtain ⟨condition, _, rfl⟩ := Piece.map_eq_ok.1 read₂
    rfl
  | assignment =>
    obtain ⟨_, name, read₁, _, rfl⟩ := Piece.seq_eq_ok.1 read
    obtain ⟨_, value, read₂, _, rfl⟩ := Piece.seq_eq_ok.1 read₁
    obtain ⟨target, _, rfl⟩ := Piece.map_eq_ok.1 read₂
    rfl
  | choice =>
    obtain ⟨options, _, rfl⟩ := Piece.map_eq_ok.1 read
    rfl
  | analysis =>
    obtain ⟨_, extract, read₁, _, rfl⟩ := Piece.seq_eq_ok.1 read
    obtain ⟨input, _, rfl⟩ := Piece.map_eq_ok.1 read₁
    rfl
  | note =>
    obtain ⟨_, message, read₁, _, rfl⟩ := Piece.seq_eq_ok.1 read
    obtain ⟨level, _, rfl⟩ := Piece.map_eq_ok.1 read₁
    rfl

theorem decodeMembers_inOrder {items : List (String × Json)} {k : StepKind}
    (inOrder : ∀ m ∈ items, m.2.InOrder) (read : decodeMembers items = .ok k) :
    k.mapFree Json.sorted = k := by
  obtain ⟨⟨tag, body⟩, split, read⟩ := Json.bind_eq_ok.1 read
  rw [Json.splitMembers_ok split] at read
  have left : ∀ m ∈ items.filter (fun m => m.1 != "type"), m.2.InOrder := fun m member =>
    inOrder m (List.mem_filter.1 member).1
  exact ofMembers_inOrder (m := ⟨_, .missing, false⟩) left (Piece.toExcept_eq_ok.1 read)

end StepKind

namespace Step

def own (s : Step) : List (String × Json) :=
  ("id", .str s.id) ::
    if s.description.isEmpty then [] else [("description", .str s.description)]

theorem toJson_eq (s : Step) : s.toJson = .obj (s.own ++ s.kind.members) := rfl

theorem own_names (s : Step) : (s.own.map (·.1)).Sublist ["id", "description"] := by
  unfold own
  split
  · simp
  · simp

theorem filter_kind (s : Step) :
    (s.own ++ s.kind.members).filter (fun m => m.1 != "id" && m.1 != "description") =
      s.kind.members := by
  have taken : s.own.filter (fun m => m.1 != "id" && m.1 != "description") = [] := by
    refine List.filter_eq_nil_iff.2 fun m member => ?_
    have name := s.own_names.subset (List.mem_map_of_mem member)
    simpa [imp_iff_not_or] using name
  have kept : s.kind.members.filter (fun m => m.1 != "id" && m.1 != "description") =
      s.kind.members := by
    refine List.filter_eq_self.2 fun m member => ?_
    obtain ⟨notId, notDescription⟩ := StepKind.mem_apart member
    simp [notId, notDescription]
  rw [List.filter_append, taken, kept, List.nil_append]

theorem description_written (arranges : Arranges f) (s : Step) {items : List (String × Json)}
    (spelt : Spelt f items (s.own ++ s.kind.members)) :
    Json.Members.optional ⟨items, .missing, false⟩ "description" Json.text "" =
      .ok s.description := by
  by_cases empty : s.description.isEmpty = true
  · have absent : "description" ∉ (s.own ++ s.kind.members).map (·.1) := by
      intro member
      obtain ⟨m, found, name⟩ := List.mem_map.1 member
      rcases List.mem_append.1 found with own | kind
      · rw [Step.own, if_pos empty, List.mem_singleton] at own
        simp [own] at name
      · exact (StepKind.mem_apart kind).2 name
    rw [spelt.left_out "description" absent, String.isEmpty_iff.1 empty]
  · exact spelt.optional "description" (by simp [own, empty]) (arranges.text s.description)

theorem decode_written (arranges : Arranges f) (s : Step) :
    decode (f s.toJson) = .ok (s.mapFree f) := by
  have distinct : ((s.own ++ s.kind.members).map (·.1)).Nodup := by
    rw [List.map_append]
    exact s.kind.names_distinct.sublist (s.own_names.append_right _)
  obtain ⟨items, written, spelt⟩ := arranges.spelt _ distinct
  have rest := spelt.filter fun name => name != "id" && name != "description"
  rw [filter_kind] at rest
  rw [toJson_eq, written]
  simp only [decode, bind, Except.bind, Json.fromMembers]
  rw [spelt.required "id" (by simp [own]) (arranges.text s.id),
    s.description_written arranges spelt, s.kind.decode_written arranges rest]
  rfl

theorem makes_inOrder : Makes decode fun s => s.mapFree Json.sorted = s := by
  intro j s inOrder read
  cases j with
  | obj members =>
    have each := (Json.inOrder_obj.1 inOrder).2
    obtain ⟨⟨id, description⟩, _, read⟩ := Json.bind_eq_ok.1 read
    obtain ⟨kind, given, same⟩ := Json.bind_eq_ok.1 read
    cases same
    have left : ∀ m ∈ members.filter (fun m => m.1 != "id" && m.1 != "description"),
        m.2.InOrder := fun m member => each m (List.mem_filter.1 member).1
    have same : kind.mapFree Json.sorted = kind := StepKind.decodeMembers_inOrder left given
    rw [mapFree, same]
  | _ => cases read

end Step

namespace Procedure

theorem decode_written (arranges : Arranges f) (p : Procedure) :
    decode (f p.toJson) = .ok (p.mapFree f) := by
  obtain ⟨items, written, spelt⟩ := arranges.spelt
    [("id", .str p.id), ("name", .str p.name), ("steps", .arr (p.steps.map (·.toJson)))] (by simp)
  have steps := arranges.listOf fun s (_ : s ∈ p.steps) => s.decode_written arranges
  rw [toJson, written]
  simp only [decode, Json.record, Json.fromMembers]
  rw [spelt.required "id" (by simp) (arranges.text p.id),
    spelt.optional "name" (by simp) (arranges.text p.name),
    spelt.optional "steps" (by simp) steps]
  rfl

theorem makes_inOrder : Makes decode fun p => p.mapFree Json.sorted = p := by
  refine Makes.record fun m inOrder p read => ?_
  obtain ⟨_, steps, read₁, found, rfl⟩ := Piece.seq_eq_ok.1 read
  obtain ⟨_, name, read₂, _, rfl⟩ := Piece.seq_eq_ok.1 read₁
  obtain ⟨id, _, rfl⟩ := Piece.map_eq_ok.1 read₂
  have each : ∀ s ∈ steps, s.mapFree Json.sorted = s :=
    Step.makes_inOrder.listOf.optional (by simp) inOrder found
  rw [mapFree, Json.map_eq_self_iff.2 each]

end Procedure

namespace Program

theorem decode_written (arranges : Arranges f) (p : Program) :
    decode (f p.toJson) = .ok (p.mapFree f) := by
  obtain ⟨items, written, spelt⟩ := arranges.spelt
    [("name", .str p.name), ("tools", Json.texts p.tools),
      ("procedures", .arr (p.procedures.map (·.toJson))),
      ("execution_order", Json.texts p.executionOrder),
      ("global_memory", .obj p.globalMemory.entries), ("error_handling", p.errorHandling.toJson)]
    (by simp)
  have procedures := arranges.listOf fun q (_ : q ∈ p.procedures) => q.decode_written arranges
  rw [toJson, written]
  simp only [decode, Json.record, Json.fromMembers]
  rw [spelt.required "name" (by simp) (arranges.text p.name),
    spelt.optional "tools" (by simp) (arranges.texts p.tools),
    spelt.required "procedures" (by simp) procedures,
    spelt.optional "execution_order" (by simp) (arranges.texts p.executionOrder),
    spelt.optional "global_memory" (by simp) (arranges.freeTable p.globalMemory),
    spelt.optional "error_handling" (by simp) (p.errorHandling.decode_written arranges)]
  rfl

theorem makes_inOrder : Makes decode fun p => p.mapFree Json.sorted = p := by
  refine Makes.record fun m inOrder p read => ?_
  obtain ⟨_, errorHandling, read₁, _, rfl⟩ := Piece.seq_eq_ok.1 read
  obtain ⟨_, globalMemory, read₂, memory, rfl⟩ := Piece.seq_eq_ok.1 read₁
  obtain ⟨_, executionOrder, read₃, _, rfl⟩ := Piece.seq_eq_ok.1 read₂
  obtain ⟨_, procedures, read₄, found, rfl⟩ := Piece.seq_eq_ok.1 read₃
  obtain ⟨_, tools, read₅, _, rfl⟩ := Piece.seq_eq_ok.1 read₄
  obtain ⟨name, _, rfl⟩ := Piece.map_eq_ok.1 read₅
  have each : ∀ p ∈ procedures, p.mapFree Json.sorted = p :=
    Procedure.makes_inOrder.listOf.required inOrder found
  have same : globalMemory.map Json.sorted = globalMemory :=
    Makes.freeTable.optional rfl inOrder memory
  rw [mapFree, Json.map_eq_self_iff.2 each, same]

theorem mapFree_id (p : Program) : p.mapFree id = p := by
  have table (t : Table Json) : t.map id = t := Table.ext (by simp [Table.map])
  have kind (k : StepKind) : k.mapFree id = k := by
    cases k with
    | command tool line parameters target => rw [StepKind.mapFree, table]
    | _ => rfl
  have steps (q : Procedure) : q.steps.map (·.mapFree id) = q.steps :=
    Json.map_eq_self_iff.2 fun s _ => by rw [Step.mapFree, kind]
  have procedures : p.procedures.map (·.mapFree id) = p.procedures :=
    Json.map_eq_self_iff.2 fun q _ => by rw [Procedure.mapFree, steps]
  rw [mapFree, procedures, table]

/-- A program is read back from what is written of it: from the members as they are written, and,
where its free values are in order, from those members in the order of their names. What was read
from a value is read back from what is then written, and writing it once more changes nothing. -/
theorem decode_toJson (p : Program) :
    decode p.toJson = .ok p ∧
    (p.mapFree Json.sorted = p → decode p.toJson.sorted = .ok p) ∧
    (∀ v, decode v = .ok p →
      decode p.toJson = .ok p ∧ ∀ q, decode p.toJson = .ok q → q.toJson = p.toJson) ∧
    (∀ v, v.InOrder → decode v = .ok p →
      decode p.toJson.sorted = .ok p ∧
        ∀ q, decode p.toJson.sorted = .ok q → q.toJson.sorted = p.toJson.sorted) := by
  have written : decode p.toJson = .ok p := by
    simpa [p.mapFree_id] using p.decode_written Json.arranges_id
  have ordered (same : p.mapFree Json.sorted = p) : decode p.toJson.sorted = .ok p := by
    simpa [same] using p.decode_written Json.arranges_sorted
  refine ⟨written, ordered, fun v _ => ⟨written, fun q again => ?_⟩, fun v inOrder read => ?_⟩
  · cases written.symm.trans again
    rfl
  · have back := ordered (makes_inOrder v p inOrder read)
    refine ⟨back, fun q again => ?_⟩
    cases back.symm.trans again
    rfl

theorem greeting_decode_toJson :
    greeting.toJson.sorted.InOrder ∧ decode greeting.toJson.sorted = .ok greeting ∧
      ∀ q, decode greeting.toJson.sorted = .ok q → q.toJson.sorted = greeting.toJson.sorted := by
  have inOrder := greeting.toJson.inOrder_sorted
  have read : decode greeting.toJson.sorted = .ok greeting := (decode_toJson greeting).2.1 rfl
  exact ⟨inOrder, (decode_toJson greeting).2.2.2 _ inOrder read⟩

end Program

end Stepwise
