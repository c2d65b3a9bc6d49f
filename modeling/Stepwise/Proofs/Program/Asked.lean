import Mathlib.Data.List.Forall2
import Stepwise.Proofs.Program.Warnings
import Stepwise.Proofs.Template.Tokens
import Stepwise.Proofs.Text.Trim
/-!
The names that steps are warned of. What a step asks for is told by its kind and by the grammar of
its templates, and so is what it may set; a name is warned of where a step asks for it that nothing
before the step can have set.
-/

namespace Stepwise

open Template

inductive Template.Names : List Piece → List String → Prop
  | done : Names [] []
  | plain {c : Char} {pieces : List Piece} {names : List String} (more : Names pieces names) :
      Names (.plain c :: pieces) names
  | token {name : List Char} {isBraced : Bool} {pieces : List Piece} {names : List String}
      (more : Names pieces names) :
      Names (.token name isBraced :: pieces) (String.ofList name :: names)

def Template.Asks (text : String) (names : List String) : Prop :=
  ∃ pieces, Template.Reads text.toList pieces ∧ Names pieces names

/-- The names that one side of a check asks for: it is a template, or else may be a bare name. -/
inductive Condition.OperandAsks (text : String) : List String → Prop
  | tokens {names : List String} (asks : Template.Asks text names) (some : names ≠ []) :
      OperandAsks text names
  | bare {name : String} (plain : Template.Asks text []) (left : Text.Trims name text)
      (isName : IsName name.toList) : OperandAsks text [name]
  | other {left : String} (plain : Template.Asks text []) (trims : Text.Trims left text)
      (unnamed : ¬ IsName left.toList) : OperandAsks text []

inductive Condition.Asks : Condition → List String → Prop
  | equality {operand value : String} {left right : List String} (one : OperandAsks operand left)
      (another : Template.Asks value right) : Asks (.equality operand value) (left ++ right)
  | contains {operand value : String} {left right : List String} (one : OperandAsks operand left)
      (another : Template.Asks value right) : Asks (.contains operand value) (left ++ right)
  | boolean {expression : String} {names : List String} (asks : Template.Asks expression names) :
      Asks (.boolean expression) names

inductive Action.Asks : Action → List String → Prop
  | command {tool line : String} {target : Option String} {names : List String}
      (asks : Template.Asks line names) : Asks (.command tool line target) names
  | log {message : String} {level : NoteLevel} {names : List String}
      (asks : Template.Asks message names) : Asks (.log message level) names

/-- The names that a step asks for. Both branches of a condition count, and of the options of a
choice the first, which is the one that is taken. -/
inductive StepKind.Asks : StepKind → List String → Prop
  | command {tool line : String} {parameters : Table Json} {target : Option String}
      {names : List String} (asks : Template.Asks line names) :
      Asks (.command tool line parameters target) names
  | conditional {condition : Condition} {onTrue onFalse : Option Action} {names : List String}
      {each : List (List String)} (asks : condition.Asks names)
      (branches : List.Forall₂ Action.Asks (onTrue.toList ++ onFalse.toList) each) :
      Asks (.conditional condition onTrue onFalse) (names ++ each.flatten)
  | assignment {target value : String} {key : Option String} {names : List String}
      (asks : Template.Asks value names) : Asks (.assignment target value key) names
  | choice {chosen : ChoiceOption} {others : List ChoiceOption} {names : List String}
      (asks : chosen.action.Asks names) : Asks (.choice (chosen :: others)) names
  | noOptions : Asks (.choice []) []
  | analysis {input extract : List String} : Asks (.analysis input extract) input
  | note {level : NoteLevel} {message : String} {names : List String}
      (asks : Template.Asks message names) : Asks (.note level message) names

/-- The names that a step may set. All options of a choice count. -/
inductive Step.Sets (s : Step) : String → Prop
  | command {tool line name : String} {parameters : Table Json}
      (kind : s.kind = .command tool line parameters (some name)) : Sets s name
  | branch {condition : Condition} {onTrue onFalse : Option Action} {tool line name : String}
      (kind : s.kind = .conditional condition onTrue onFalse)
      (one : onTrue = some (.command tool line (some name)) ∨
        onFalse = some (.command tool line (some name))) : Sets s name
  | option {options : List ChoiceOption} {description tool line name : String}
      (kind : s.kind = .choice options)
      (one : ⟨description, .command tool line (some name)⟩ ∈ options) : Sets s name
  | frame {target value : String} {key : Option String}
      (kind : s.kind = .assignment target value key) (own : target ∉ ["memory", "global"]) :
      Sets s target
  | memory {target value key : String} (kind : s.kind = .assignment target value (some key))
      (shared : target ∈ ["memory", "global"]) (keyed : Text.isBlankText key = false) : Sets s key
  | unkeyed {target value : String} {key : Option String}
      (kind : s.kind = .assignment target value key) (shared : target ∈ ["memory", "global"])
      (blank : ∀ k ∈ key, Text.isBlankText k = true) : Sets s s.id

/-- The names of a list that are not known, each at its first place. -/
inductive Anew : (String → Prop) → List String → List String → Prop
  | done {known : String → Prop} : Anew known [] []
  | old {known : String → Prop} {name : String} {rest names : List String} (met : known name)
      (more : Anew known rest names) : Anew known (name :: rest) names
  | new {known : String → Prop} {name : String} {rest names : List String} (unmet : ¬ known name)
      (more : Anew (fun other => other = name ∨ known other) rest names) :
      Anew known (name :: rest) (name :: names)

/-- The warnings along a walk, given which names can have been set before it. -/
inductive Warned : (String → Prop) → List (String × Step) → List Diagnostic → Prop
  | done {known : String → Prop} : Warned known [] []
  | step {known : String → Prop} {procedureId : String} {s : Step} {rest : List (String × Step)}
      {asked names : List String} {found : List Diagnostic} (asks : s.kind.Asks asked)
      (anew : Anew known asked names)
      (more : Warned (fun name => known name ∨ s.Sets name) rest found) :
      Warned known ((procedureId, s) :: rest)
        (names.map (fun name => ⟨.step procedureId s.id, .undefinedVariable name⟩) ++ found)

namespace Template

theorem names_iff {pieces : List Piece} {names : List String} :
    Names pieces names ↔ names = pieces.filterMap Piece.name? := by
  constructor
  · intro told
    induction told with
    | done => rfl
    | plain _ ih => exact ih
    | token _ ih => rw [ih]; rfl
  · rintro rfl
    induction pieces with
    | nil => exact .done
    | cons piece rest ih =>
      cases piece with
      | plain c => exact .plain ih
      | token name isBraced => exact .token ih

theorem asks_iff {text : String} {names : List String} :
    Template.Asks text names ↔ names = tokenNames text := by
  constructor
  · rintro ⟨pieces, reads, told⟩
    rw [names_iff.1 told, reads.eq_scan, tokenNames]
  · rintro rfl
    exact ⟨_, reads_scan text.toList, names_iff.2 rfl⟩

theorem name?_eq_whole {cs : List Char} :
    (∃ name, name? cs = some (name, [])) ↔ IsName cs := by
  constructor
  · rintro ⟨name, found⟩
    obtain ⟨isName, text, -⟩ := name?_eq_some.1 found
    rwa [text, List.append_nil]
  · intro isName
    exact ⟨cs, name?_eq_some.2 ⟨isName, by simp, fun c front => by simp at front⟩⟩

end Template

namespace Validation

theorem operandVariables_plain {text : String} (plain : tokenNames text = []) :
    (IsName (Text.trim text).toList → operandVariables text = [Text.trim text]) ∧
      (¬ IsName (Text.trim text).toList → operandVariables text = []) := by
  have chars : (Text.trim text).toList = Text.trimChars text.toList := String.toList_ofList
  unfold operandVariables
  rw [plain]
  dsimp only
  rw [← chars, String.ofList_toList]
  constructor
  · intro isName
    obtain ⟨name, whole⟩ := Template.name?_eq_whole.2 isName
    rw [whole]
  · intro unnamed
    split
    · next whole => exact absurd (Template.name?_eq_whole.1 ⟨_, whole⟩) unnamed
    · rfl

theorem operandVariables_tokens {text : String} (some : tokenNames text ≠ []) :
    operandVariables text = tokenNames text := by
  unfold operandVariables
  split
  · next none => exact absurd none some
  · rfl

theorem operandAsks_iff {text : String} {names : List String} :
    Condition.OperandAsks text names ↔ names = operandVariables text := by
  constructor
  · rintro (⟨asks, some⟩ | ⟨plain, left, isName⟩ | ⟨plain, trims, unnamed⟩)
    · obtain rfl := Template.asks_iff.1 asks
      exact (operandVariables_tokens some).symm
    · obtain rfl := Text.trims_iff.1 left
      exact ((operandVariables_plain (Template.asks_iff.1 plain).symm).1 isName).symm
    · obtain rfl := Text.trims_iff.1 trims
      exact ((operandVariables_plain (Template.asks_iff.1 plain).symm).2 unnamed).symm
  · rintro rfl
    by_cases plain : tokenNames text = []
    · have asks : Template.Asks text [] := Template.asks_iff.2 plain.symm
      obtain ⟨bare, other⟩ := operandVariables_plain plain
      by_cases isName : IsName (Text.trim text).toList
      · exact bare isName ▸ .bare asks (Text.trims_iff.2 rfl) isName
      · exact other isName ▸ .other asks (Text.trims_iff.2 rfl) isName
    · exact operandVariables_tokens plain ▸ .tokens (Template.asks_iff.2 rfl) plain

theorem conditionAsks_iff {condition : Condition} {names : List String} :
    condition.Asks names ↔ names = conditionVariables condition := by
  constructor
  · rintro (⟨one, another⟩ | ⟨one, another⟩ | asks)
    · rw [operandAsks_iff.1 one, Template.asks_iff.1 another, conditionVariables]
    · rw [operandAsks_iff.1 one, Template.asks_iff.1 another, conditionVariables]
    · exact Template.asks_iff.1 asks
  · rintro rfl
    cases condition with
    | equality operand value =>
      exact .equality (operandAsks_iff.2 rfl) (Template.asks_iff.2 rfl)
    | contains operand value =>
      exact .contains (operandAsks_iff.2 rfl) (Template.asks_iff.2 rfl)
    | boolean expression => exact .boolean (Template.asks_iff.2 rfl)

theorem actionAsks_iff {a : Action} {names : List String} :
    a.Asks names ↔ names = actionVariables a := by
  constructor
  · rintro (asks | asks)
    · exact Template.asks_iff.1 asks
    · exact Template.asks_iff.1 asks
  · rintro rfl
    cases a with
    | command tool line target => exact .command (Template.asks_iff.2 rfl)
    | log message level => exact .log (Template.asks_iff.2 rfl)

theorem actionsAsk_iff {actions : List Action} {each : List (List String)} :
    List.Forall₂ Action.Asks actions each ↔ each = actions.map actionVariables := by
  constructor
  · intro asks
    induction asks with
    | nil => rfl
    | cons one _ ih => rw [actionAsks_iff.1 one, ih, List.map_cons]
  · rintro rfl
    rw [List.forall₂_map_right_iff]
    exact List.forall₂_same.2 fun a _ => actionAsks_iff.2 rfl

/-- What the rule takes a step to read is what the step asks for. -/
theorem stepAsks_iff {s : Step} {names : List String} :
    s.kind.Asks names ↔ names = usedVariables s := by
  obtain ⟨id, description, kind⟩ := s
  constructor
  · intro asks
    cases asks with
    | command asks | assignment asks | note asks => exact Template.asks_iff.1 asks
    | conditional asks branches =>
      rw [conditionAsks_iff.1 asks, actionsAsk_iff.1 branches, ← List.flatMap_def]
      rfl
    | choice asks => exact actionAsks_iff.1 asks
    | noOptions | analysis => rfl
  · rintro rfl
    cases kind with
    | command tool line parameters target => exact .command (Template.asks_iff.2 rfl)
    | conditional condition onTrue onFalse =>
      exact .conditional (conditionAsks_iff.2 rfl) (actionsAsk_iff.2 rfl)
    | assignment target value key => exact .assignment (Template.asks_iff.2 rfl)
    | choice options =>
      cases options with
      | nil => exact .noOptions
      | cons chosen others => exact .choice (actionAsks_iff.2 rfl)
    | analysis input extract => exact .analysis
    | note level message => exact .note (Template.asks_iff.2 rfl)

theorem mem_actionTargets {s : Step} {name : String} :
    name ∈ s.actionTargets ↔ ∃ tool line, .command tool line (some name) ∈ s.actions := by
  rw [Step.actionTargets, List.mem_filterMap]
  constructor
  · rintro ⟨a, member, named⟩
    cases a with
    | command tool line target => exact ⟨tool, line, named ▸ member⟩
    | log message level => simp [Action.assignTo] at named
  · rintro ⟨tool, line, member⟩
    exact ⟨_, member, rfl⟩

theorem memoryKey_sets {s : Step} {target value : String} {key : Option String}
    (kind : s.kind = .assignment target value key) (shared : target ∈ ["memory", "global"]) :
    s.Sets s.memoryKey := by
  rw [Step.memoryKey, kind]
  cases key with
  | none => exact .unkeyed kind shared (by simp)
  | some key =>
    dsimp only
    split
    · next blank => exact .unkeyed kind shared (by simpa using blank)
    · next keyed => exact .memory kind shared (by simpa using keyed)

theorem sets_iff {s : Step} {name : String} : s.Sets name ↔ name ∈ s.definedVariables := by
  have memory (target : String) : target ∈ ["memory", "global"] ↔ isMemoryTarget target = true := by
    simp [isMemoryTarget]
  constructor
  · rintro (⟨kind⟩ | ⟨kind, one⟩ | ⟨kind, one⟩ | ⟨kind, own⟩ | ⟨kind, shared, keyed⟩ |
      @⟨_, _, key, kind, shared, blank⟩)
    · simp [Step.definedVariables, kind]
    · simp only [Step.definedVariables, kind, mem_actionTargets, Step.actions, List.mem_append,
        Option.mem_toList]
      exact ⟨_, _, one⟩
    · simp only [Step.definedVariables, kind, mem_actionTargets, Step.actions]
      exact ⟨_, _, List.mem_map.2 ⟨_, one, rfl⟩⟩
    · rw [memory] at own
      simp [Step.definedVariables, kind, own]
    · rw [memory] at shared
      simp [Step.definedVariables, kind, shared, Step.memoryKey, keyed]
    · rw [memory] at shared
      cases key with
      | none => simp [Step.definedVariables, kind, shared, Step.memoryKey]
      | some key => simp [Step.definedVariables, kind, shared, Step.memoryKey, blank key rfl]
  · intro member
    unfold Step.definedVariables at member
    split at member
    · next kind =>
      rw [Option.mem_toList] at member
      exact .command (member ▸ kind)
    · next kind =>
      split at member
      · next shared =>
        obtain rfl := List.mem_singleton.1 member
        exact memoryKey_sets kind ((memory _).2 shared)
      · next own =>
        obtain rfl := List.mem_singleton.1 member
        exact .frame kind (mt (memory _).1 own)
    · next kind =>
      obtain ⟨tool, line, here⟩ := mem_actionTargets.1 member
      simp only [Step.actions, kind, List.mem_append, Option.mem_toList] at here
      exact .branch kind here
    · next kind =>
      obtain ⟨tool, line, here⟩ := mem_actionTargets.1 member
      simp only [Step.actions, kind, List.mem_map] at here
      obtain ⟨⟨description, action⟩, one, rfl⟩ := here
      exact .option kind one
    · simp at member
    · simp at member

theorem distinct_filter_cons (name : String) (rest defined : List String) :
    (distinct (name :: rest)).filter (fun n => !defined.contains n) =
      if name ∈ defined then (distinct rest).filter fun n => !defined.contains n
      else name :: (distinct rest).filter fun n => !(name :: defined).contains n := by
  rw [distinct, List.filter_cons, List.filter_filter]
  by_cases met : name ∈ defined
  · rw [if_neg (by simpa using met), if_pos met]
    refine List.filter_congr fun n _ => ?_
    by_cases same : n = name
    · simp [same, met]
    · simp [same]
  · rw [if_pos (by simpa using met), if_neg met]
    congr 1
    refine List.filter_congr fun n _ => ?_
    by_cases same : n = name
    · simp [same]
    · simp [same]

theorem anew_iff {known : String → Prop} {defined : List String}
    (same : ∀ name, known name ↔ name ∈ defined) {asked names : List String} :
    Anew known asked names ↔ names = (distinct asked).filter fun n => !defined.contains n := by
  induction asked generalizing known defined names with
  | nil =>
    constructor
    · rintro ⟨⟩
      rfl
    · rintro rfl
      exact .done
  | cons name rest ih =>
    rw [distinct_filter_cons]
    have after : ∀ other, other = name ∨ known other ↔ other ∈ name :: defined := by
      intro other
      rw [List.mem_cons, same]
    constructor
    · rintro (_ | ⟨met, more⟩ | ⟨unmet, more⟩)
      · rw [if_pos ((same name).1 met)]
        exact (ih same).1 more
      · rw [if_neg (mt (same name).2 unmet), (ih after).1 more]
    · rintro rfl
      split
      · next met => exact .old ((same name).2 met) ((ih same).2 rfl)
      · next unmet => exact .new (mt (same name).1 unmet) ((ih after).2 rfl)

theorem warned_iff {known : String → Prop} {defined : List String}
    (same : ∀ name, known name ↔ name ∈ defined) {l : List (String × Step)}
    {found : List Diagnostic} : Warned known l found ↔ found = undefinedFrom defined l := by
  induction l generalizing known defined found with
  | nil =>
    constructor
    · rintro ⟨⟩
      rfl
    · rintro rfl
      exact .done
  | cons head rest ih =>
    obtain ⟨procedureId, s⟩ := head
    have after : ∀ name, known name ∨ s.Sets name ↔ name ∈ defined ++ s.definedVariables := by
      intro name
      rw [List.mem_append, same, sets_iff]
    constructor
    · rintro (_ | ⟨asks, anew, more⟩)
      rw [undefinedFrom, ← stepAsks_iff.1 asks, ← (anew_iff same).1 anew, (ih after).1 more]
    · rintro rfl
      exact .step (stepAsks_iff.2 rfl) ((anew_iff same).2 rfl) ((ih after).2 rfl)

end Validation

end Stepwise
