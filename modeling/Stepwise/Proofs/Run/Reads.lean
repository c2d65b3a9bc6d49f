import Stepwise.Proofs.Debugger.Operation
import Stepwise.Proofs.Program.Warnings
import Stepwise.Proofs.Run.Untimed
import Stepwise.Proofs.Run.Writes
/-!
What evaluating a step reads. Two states that agree on the names that a step looks up are the same
to it: it reports the same and writes the same. The rule on undefined variables goes by these names
too, all but three kinds of them, so a step that depends on any other name is warned of where
nothing before it can have defined the name.
-/

namespace Stepwise

open Validation

def Variables.AgreeOn (names : List String) (v v' : Variables) : Prop :=
  ∀ name ∈ names, v.value? name = v'.value? name

def operandReads (text : String) : List String :=
  if text.toList.contains '$' then tokenNames text else [Text.trim text]

def Condition.reads : Condition → List String
  | .equality operand value | .contains operand value => operandReads operand ++ tokenNames value
  | .boolean expression => operandReads expression

def Step.reads (s : Step) : List String :=
  match s.kind with
  | .command _ line _ _ => tokenNames line
  | .conditional condition .. => condition.reads ++ s.actions.flatMap actionVariables
  | .assignment _ value _ => tokenNames value
  | .choice options => (options.head?.map fun o => actionVariables o.action).getD []
  | .analysis input _ => input ++ tokenNames s.description
  | .note _ message => tokenNames message

def bareName (text : String) : List String :=
  if text.toList.contains '$' then [] else [Text.trim text]

/-- The names that a check looks up and that it is not taken to read: a flag written as a bare name,
and an operand written as one that no token could spell. -/
def Condition.overlooked : Condition → List String
  | .equality operand _ | .contains operand _ =>
    (bareName operand).filter fun n => !(operandVariables operand).contains n
  | .boolean expression => bareName expression

def Step.overlooked (s : Step) : List String :=
  match s.kind with
  | .conditional condition .. => condition.overlooked
  | .analysis .. => tokenNames s.description
  | _ => []

theorem fillTemplate_congr {look look' : String → Option String} {text : String}
    (agree : ∀ name ∈ tokenNames text, look name = look' name) :
    fillTemplate look text = fillTemplate look' text := by
  have pieces : ∀ piece ∈ Template.scan text.toList, piece.fill look = piece.fill look' := by
    intro piece member
    cases piece with
    | plain c => rfl
    | token name isBraced =>
      have read : String.ofList name ∈ tokenNames text := List.mem_filterMap.2 ⟨_, member, rfl⟩
      simp only [Template.Piece.fill, agree _ read]
  simp only [fillTemplate, fillChars, List.flatMap_def, List.map_congr_left pieces]

namespace Variables

variable {v v' : Variables}

theorem AgreeOn.mono {names more : List String} (agree : v.AgreeOn more v')
    (subset : names ⊆ more) : v.AgreeOn names v' :=
  fun name member => agree name (subset member)

theorem fill_congr {text : String} (agree : v.AgreeOn (tokenNames text) v') :
    v.fill text = v'.fill text :=
  fillTemplate_congr agree

theorem operand_congr {text : String} (agree : v.AgreeOn (operandReads text) v') :
    v.operand text = v'.operand text := by
  unfold operandReads at agree
  unfold operand
  split
  · next dollar =>
    rw [if_pos dollar] at agree
    exact fill_congr agree
  · next bare =>
    rw [if_neg bare] at agree
    rw [agree _ (List.mem_singleton_self _)]

theorem AgreeOn.untimed {names : List String} (agree : v.AgreeOn names v') :
    v.untimed.AgreeOn names v'.untimed := by
  intro name member
  rw [value?_untimed, value?_untimed]
  exact agree name member

end Variables

theorem Condition.holds_congr {v v' : Variables} {condition : Condition}
    (agree : v.AgreeOn condition.reads v') : condition.holds v = condition.holds v' := by
  cases condition with
  | equality operand value | contains operand value =>
    have left : v.operand operand = v'.operand operand :=
      Variables.operand_congr (agree.mono (List.subset_append_left _ _))
    have right : v.fill value = v'.fill value :=
      Variables.fill_congr (agree.mono (List.subset_append_right _ _))
    simp only [holds, left, right]
  | boolean expression =>
    have flag : v.operand expression = v'.operand expression := Variables.operand_congr agree
    simp only [holds, flag]

theorem attempt_congr (options : Options) {v v' : Variables} {template : String}
    (agree : v.AgreeOn (tokenNames template) v') :
    attempt options v template = attempt options v' template := by
  simp only [attempt, Variables.fill_congr agree]

namespace Plan

theorem map_map (f : α → β) (g : β → γ) (plan : Plan α) :
    (plan.map f).map g = plan.map fun a => g (f a) := by
  cases plan with
  | done a => rfl
  | ask request answered => rfl

theorem request?_map (f : α → β) (plan : Plan α) : (plan.map f).request? = plan.request? := by
  cases plan with
  | done a => rfl
  | ask request answered => rfl

theorem run_map (f : α → β) (plan : Plan α) (h : Host σ) (world : σ) :
    ((plan.map f).run h world).1 = f (plan.run h world).1 := by
  cases plan with
  | done a => rfl
  | ask request answered => rfl

def reports (plan : Plan Evaluated) : Plan StepResult := plan.map (·.result)

theorem reports_wrapped (wrap : Json → Json) {plan plan' : Plan Evaluated}
    (same : plan.reports = plan'.reports) :
    (plan.map (Step.wrapOutput wrap)).reports = (plan'.map (Step.wrapOutput wrap)).reports := by
  have outside (p : Plan Evaluated) : (p.map (Step.wrapOutput wrap)).reports =
      p.reports.map fun r => { r with output := wrap r.output } := by
    rw [reports, reports, map_map, map_map]
    rfl
  rw [outside, outside, same]

end Plan

theorem Attempt.result_evaluated (a : Attempt) (s : Step) (v v' : Variables)
    (target : Option String) :
    (a.evaluated s v target).result = (a.evaluated s v' target).result := by
  cases a with
  | blocked command level => rfl
  | aborted command level error => rfl
  | finished command level output time => rfl

namespace Step

variable (s : Step) (options : Options) {v v' : Variables}

theorem runCommand_congr {template : String} (target : Option String)
    (agree : v.AgreeOn (tokenNames template) v') :
    (s.runCommand options v template target).reports =
      (s.runCommand options v' template target).reports := by
  have same : (fun a : Attempt => (a.evaluated s v target).result) =
      fun a => (a.evaluated s v' target).result :=
    funext fun a => a.result_evaluated s v v' target
  rw [runCommand, runCommand, Plan.reports, Plan.reports, Plan.map_map, Plan.map_map, same,
    attempt_congr options agree]

theorem runAction_congr {a : Action} (agree : v.AgreeOn (actionVariables a) v') :
    (s.runAction options v a).reports = (s.runAction options v' a).reports := by
  cases a with
  | command tool template target => exact runCommand_congr s options target agree
  | log message level =>
    have said : v.fill message = v'.fill message := Variables.fill_congr agree
    simp only [runAction, said]
    rfl

theorem analyze_congr {description : String} {input : List String} (extract : List String)
    (agree : v.AgreeOn (input ++ tokenNames description) v') :
    analyze v description input extract = analyze v' description input extract := by
  have text : v.fill description = v'.fill description :=
    Variables.fill_congr (agree.mono (List.subset_append_right _ _))
  have inputs : (input.map fun n => (n, Json.ofOption .str (v.value? n))) =
      input.map fun n => (n, Json.ofOption .str (v'.value? n)) := by
    refine List.map_congr_left fun n member => ?_
    rw [agree n (List.mem_append_left _ member)]
  simp only [analyze, text, inputs]

variable {s}

theorem actionVariables_subset {a : Action} (member : a ∈ s.actions) :
    actionVariables a ⊆ s.actions.flatMap actionVariables :=
  fun _ read => List.mem_flatMap.2 ⟨a, member, read⟩

theorem branch_mem {condition : Condition} {onTrue onFalse : Option Action} {a : Action}
    {outcome : Bool} (kind : s.kind = .conditional condition onTrue onFalse)
    (branch : (if outcome then onTrue else onFalse) = some a) : a ∈ s.actions := by
  simp only [actions, kind, List.mem_append, Option.mem_toList]
  split at branch
  · exact .inl branch
  · exact .inr branch

theorem plan_congr (agree : v.AgreeOn s.reads v') :
    (s.plan options v).reports = (s.plan options v').reports := by
  unfold reads at agree
  unfold plan
  cases kind : s.kind with
  | command tool template parameters target =>
    simp only [kind] at agree
    exact runCommand_congr s options target agree
  | conditional condition onTrue onFalse =>
    simp only [kind] at agree
    have same : condition.holds v = condition.holds v' :=
      Condition.holds_congr (agree.mono (List.subset_append_left _ _))
    dsimp only
    rw [same]
    cases branch : (if condition.holds v' = true then onTrue else onFalse) with
    | none => rfl
    | some a =>
      refine Plan.reports_wrapped _ (runAction_congr s options (agree.mono ?_))
      exact List.Subset.trans (actionVariables_subset (branch_mem kind branch))
        (List.subset_append_right _ _)
  | assignment target value name =>
    simp only [kind] at agree
    simp only [assign, Variables.fill_congr agree]
    split
    · rfl
    · rfl
  | choice choices =>
    simp only [kind] at agree
    cases choices with
    | nil => rfl
    | cons chosen rest => exact Plan.reports_wrapped _ (runAction_congr s options agree)
  | analysis input extract =>
    simp only [kind] at agree
    dsimp only
    rw [analyze_congr extract agree]
    rfl
  | note level message =>
    simp only [kind] at agree
    dsimp only
    rw [Variables.fill_congr agree]
    rfl

theorem actionWrites_congr {a : Action} (agree : v.AgreeOn (actionVariables a) v')
    (answer : Option Answer) : a.writes v answer = a.writes v' answer := by
  cases a with
  | command tool template target =>
    have line : v.fill template = v'.fill template := Variables.fill_congr agree
    simp only [Action.writes, Answer.writes, line]
  | log message level => rfl

theorem writes_congr (agree : v.AgreeOn s.reads v') (answer : Option Answer) :
    s.writes v answer = s.writes v' answer := by
  unfold reads at agree
  unfold writes
  cases kind : s.kind with
  | command tool template parameters target =>
    simp only [kind] at agree
    simp only [Answer.writes, Variables.fill_congr agree]
  | conditional condition onTrue onFalse =>
    simp only [kind] at agree
    have same : condition.holds v = condition.holds v' :=
      Condition.holds_congr (agree.mono (List.subset_append_left _ _))
    dsimp only
    rw [same]
    cases branch : (if condition.holds v' = true then onTrue else onFalse) with
    | none => rfl
    | some a =>
      refine actionWrites_congr (agree.mono ?_) answer
      exact List.Subset.trans (actionVariables_subset (branch_mem kind branch))
        (List.subset_append_right _ _)
  | assignment target value name =>
    simp only [kind] at agree
    simp only [Variables.fill_congr agree]
  | choice choices =>
    simp only [kind] at agree
    cases choices with
    | nil => rfl
    | cons chosen rest => exact actionWrites_congr agree answer
  | analysis input extract => rfl
  | note level message => rfl

end Step

theorem operandReads_seen (text : String) : operandReads text ⊆ operandVariables text ++
    (bareName text).filter fun n => !(operandVariables text).contains n := by
  intro name read
  unfold operandReads at read
  split at read
  · refine List.mem_append_left _ ?_
    unfold operandVariables
    split
    · next empty => simp [empty] at read
    · exact read
  · next bare =>
    by_cases seen : name ∈ operandVariables text
    · exact List.mem_append_left _ seen
    · refine List.mem_append_right _ (List.mem_filter.2 ⟨?_, by simpa using seen⟩)
      rwa [bareName, if_neg bare]

theorem flagReads_seen (text : String) : operandReads text ⊆ tokenNames text ++ bareName text := by
  unfold operandReads bareName
  split
  · exact List.subset_append_left _ _
  · exact List.subset_append_right _ _

theorem Condition.reads_seen (condition : Condition) :
    condition.reads ⊆ conditionVariables condition ++ condition.overlooked := by
  cases condition with
  | equality operand value | contains operand value =>
    intro name read
    simp only [conditionVariables, overlooked, List.append_assoc]
    rcases List.mem_append.1 read with left | right
    · rcases List.mem_append.1 (operandReads_seen operand left) with seen | missed
      · exact List.mem_append_left _ seen
      · exact List.mem_append_right _ (List.mem_append_right _ missed)
    · exact List.mem_append_right _ (List.mem_append_left _ right)
  | boolean expression => exact flagReads_seen expression

theorem Step.reads_seen (s : Step) : s.reads ⊆ usedVariables s ++ s.overlooked := by
  unfold reads usedVariables overlooked
  cases s.kind with
  | conditional condition onTrue onFalse =>
    intro name read
    dsimp only at read ⊢
    rw [List.append_assoc]
    rcases List.mem_append.1 read with checked | acted
    · rcases List.mem_append.1 (condition.reads_seen checked) with seen | missed
      · exact List.mem_append_left _ seen
      · exact List.mem_append_right _ (List.mem_append_right _ missed)
    · exact List.mem_append_right _ (List.mem_append_left _ acted)
  | analysis input extract => exact List.Subset.refl _
  | command | assignment | choice | note => exact List.subset_append_left _ _

def Step.ActsAlike (first : Host σ) (second : Host τ) (options : Options) (step : Step)
    (s s' : RunState) : Prop :=
  ∀ world world',
    let here := (s.evaluate first options step world).1
    let there := (s'.evaluate second options step world').1
    here.1 = there.1 ∧ ∃ writes,
      here.2.vars.untimed = s.vars.untimed.writeAll writes ∧
        there.2.vars.untimed = s'.vars.untimed.writeAll writes

theorem RunState.evaluate_untimed {h : Host σ} {answer : Request → Reply}
    (answers : h.Answers answer) (options : Options) (s : RunState) (step : Step) (world : σ) :
    let alone := ((step.plan options s.vars.untimed).run (.ofAnswers answer) ()).1
    (s.evaluate h options step world).1.1 = alone.result ∧
      (s.evaluate h options step world).1.2.vars.untimed = alone.vars := by
  intro alone
  have same : ((step.plan options s.vars).run h world).1.untimed = alone :=
    (step.plan_agree options s.vars).run answers world
  have result := congrArg Evaluated.result same
  have vars := congrArg Evaluated.vars same
  exact ⟨result, vars⟩

theorem Step.actsAlike {first : Host σ} {second : Host τ} {answer : Request → Reply}
    (answers : first.Answers answer) (answers' : second.Answers answer) (options : Options)
    {step : Step} {s s' : RunState} (agree : s.vars.AgreeOn step.reads s'.vars) :
    step.ActsAlike first second options s s' := by
  intro world world' here there
  obtain ⟨result, vars⟩ := RunState.evaluate_untimed answers options s step world
  obtain ⟨result', vars'⟩ := RunState.evaluate_untimed answers' options s' step world'
  have reports := step.plan_congr options agree.untimed
  have told := (step.plan_tells options s.vars.untimed).outcome
    (Eq.refl ((step.plan options s.vars.untimed).run (.ofAnswers answer) ()))
  have told' := (step.plan_tells options s'.vars.untimed).outcome
    (Eq.refl ((step.plan options s'.vars.untimed).run (.ofAnswers answer) ()))
  have asked : (step.plan options s.vars.untimed).request? =
      (step.plan options s'.vars.untimed).request? := by
    have requests := congrArg Plan.request? reports
    rwa [Plan.reports, Plan.reports, Plan.request?_map, Plan.request?_map] at requests
  constructor
  · have alone := congrArg (fun p => (Plan.run (.ofAnswers answer) () p).1) reports
    simp only [Plan.reports, Plan.run_map] at alone
    exact result.trans (alone.trans result'.symm)
  · rw [← step.writes_congr agree.untimed, ← asked] at told'
    exact ⟨_, vars.trans told.vars, vars'.trans told'.vars⟩

/-- Whether evaluating a step can come out differently where one name stands for something else. -/
def Step.DependsOn (step : Step) (name : String) : Prop :=
  ∃ (answer : Request → Reply) (options : Options) (s s' : RunState),
    (∀ other, other ≠ name → s.vars.value? other = s'.vars.value? other) ∧
      ¬ step.ActsAlike (.ofAnswers answer) (.ofAnswers answer) options s s'

theorem Step.DependsOn.reads {step : Step} {name : String} (depends : step.DependsOn name) :
    name ∈ step.reads := by
  obtain ⟨answer, options, s, s', others, differ⟩ := depends
  refine Decidable.by_contra fun unread => differ ?_
  refine Step.actsAlike (fun _ _ => rfl) (fun _ _ => rfl) options fun other read => others other ?_
  rintro rfl
  exact unread read

namespace Validation

theorem mem_distinct {name : String} {names : List String} :
    name ∈ distinct names ↔ name ∈ names := by
  induction names with
  | nil => rfl
  | cons head rest ih =>
    rw [distinct, List.mem_cons, List.mem_cons, List.mem_filter, ih]
    by_cases same : name = head
    · simp [same]
    · simp [same]

theorem reportsAt_used {p : Program} {k : Nat} {procedureId name : String} {s : Step}
    (found : p.located[k]? = some (procedureId, s)) (used : name ∈ usedVariables s)
    (undefined : name ∉ p.definedBefore k) :
    ⟨.step procedureId s.id, .undefinedVariable name⟩ ∈ reportsAt p k := by
  unfold reportsAt
  rw [found]
  refine List.mem_map.2 ⟨name, List.mem_filter.2 ⟨mem_distinct.2 used, ?_⟩, rfl⟩
  simpa using undefined

theorem reportsAt_subset {p : Program} {k : Nat} : reportsAt p k ⊆ p.diagnostics := by
  intro d member
  have inside : k < p.walk.length := by
    rw [← p.map_located, List.length_map]
    refine Decidable.by_contra fun outside => ?_
    rw [reportsAt, List.getElem?_eq_none (Nat.not_lt.1 outside)] at member
    simp at member
  refine List.mem_flatMap.2 ⟨.undefinedVariable, by simp [Rule.all], ?_⟩
  rw [applyRule, undefinedVariable_eq]
  exact List.mem_flatMap.2 ⟨k, List.mem_range.2 inside, member⟩

end Validation

/-- Where commands are answered alike, states that agree on the names that a step is taken to read
and on those overlooked are the same to it. A step of a program that depends on a name which is not
overlooked is warned of where nothing before it can have defined the name. -/
theorem evaluation_told_by_names {σ τ : Type} {first : Host σ} {second : Host τ}
    {answer : Request → Reply} (answers : first.Answers answer) (answers' : second.Answers answer)
    (options : Options) (step : Step) :
    (∀ s s' : RunState, s.vars.AgreeOn (usedVariables step ++ step.overlooked) s'.vars →
        step.ActsAlike first second options s s') ∧
      ∀ (p : Program) (k : Nat) (procedureId name : String),
        p.located[k]? = some (procedureId, step) → step.DependsOn name →
          name ∉ step.overlooked → name ∉ p.definedBefore k →
            ⟨.step procedureId step.id, .undefinedVariable name⟩ ∈ p.diagnostics := by
  constructor
  · intro s s' agree
    exact Step.actsAlike answers answers' options (agree.mono step.reads_seen)
  · intro p k procedureId name found depends seen undefined
    have used : name ∈ usedVariables step := by
      rcases List.mem_append.1 (step.reads_seen depends.reads) with used | missed
      · exact used
      · exact absurd missed seen
    exact reportsAt_subset (reportsAt_used found used undefined)

namespace Step

def tell : Step := ⟨"tell", "", .note .info "$port"⟩

def flag : Step := ⟨"flag", "", .conditional (.boolean "ready") (some (.log "go" .info)) none⟩

def survey : Step := ⟨"survey", "host: $host", .analysis [] ["host"]⟩

end Step

def Program.unwary : Program where
  name := "unwary"
  tools := []
  procedures := [⟨"main", "", [.tell, .flag, .survey]⟩]
  executionOrder := []
  globalMemory := ∅
  errorHandling := .standard

def RunState.holding (name value : String) : RunState :=
  { RunState.initial .unwary with vars := ⟨Table.ofList [(name, value)], ∅, ∅⟩ }

theorem RunState.holding_others {name other : String} (differ : other ≠ name)
    (value value' : String) :
    (holding name value).vars.value? other = (holding name value').vars.value? other := by
  have absent (given : String) : (Table.ofList [(name, given)]).get? other = none := by
    rw [Table.ofList, List.foldl_cons, List.foldl_nil, Table.get?_insert, if_neg differ,
      Table.get?_empty]
  simp only [holding, Variables.value?, Variables.find?, absent]

theorem Step.dependsOn_of_output {step : Step} {name : String} (value value' : String)
    (differ : ((step.plan .standard (RunState.holding name value).vars).run
        (.ofAnswers echo) ()).1.result.output.compact ≠
      ((step.plan .standard (RunState.holding name value').vars).run
        (.ofAnswers echo) ()).1.result.output.compact) : step.DependsOn name :=
  ⟨echo, .standard, .holding name value, .holding name value',
    fun _ other => RunState.holding_others other value value',
    fun alike => differ (congrArg (·.output.compact) (alike () ()).1)⟩

theorem unwary_reads :
    (∀ value value', Step.tell.ActsAlike .echoing (.ofAnswers echo) .standard
        (.holding "ready" value) (.holding "ready" value')) ∧
      ⟨.step "main" "tell", .undefinedVariable "port"⟩ ∈ Program.unwary.diagnostics := by
  have answers : Host.echoing.Answers echo := fun _ _ => rfl
  have answers' : (Host.ofAnswers echo).Answers echo := fun _ _ => rfl
  obtain ⟨alike, warned⟩ := evaluation_told_by_names answers answers' Options.standard Step.tell
  constructor
  · intro value value'
    refine alike _ _ fun name member => RunState.holding_others ?_ value value'
    rintro rfl
    exact absurd member (by decide +kernel)
  · exact warned .unwary 0 "main" "port" rfl
      (Step.dependsOn_of_output "22" "80" (by decide +kernel))
      (by decide +kernel) (by decide +kernel)

/-- A step of a program depends on a name that it is not taken to read, where nothing before it can
have defined the name. -/
structure Program.Misses (p : Program) (k : Nat) (step : Step) (name : String) : Prop where
  found : p.walk[k]? = some step
  unseen : name ∉ usedVariables step
  depends : step.DependsOn name
  undefined : name ∉ p.definedBefore k

/-- A flag written as a bare name is not seen, nor are the tokens of a survey's description: states
that agree on all that these steps are taken to read are not the same to them, and no warning says
that nothing defines the name. -/
theorem overlooked_names_matter :
    Program.unwary.Misses 1 .flag "ready" ∧ Program.unwary.Misses 2 .survey "host" ∧
      Program.unwary.diagnostics = [⟨.step "main" "tell", .undefinedVariable "port"⟩] := by
  have flag : Step.flag.DependsOn "ready" :=
    Step.dependsOn_of_output "yes" "no" (by decide +kernel)
  have survey : Step.survey.DependsOn "host" :=
    Step.dependsOn_of_output "one" "two" (by decide +kernel)
  exact ⟨⟨rfl, by decide +kernel, flag, by decide +kernel⟩,
    ⟨rfl, by decide +kernel, survey, by decide +kernel⟩, by decide +kernel⟩

end Stepwise
