import Stepwise.Debugger.Inspect
import Stepwise.Proofs.Template.Tokens
import Stepwise.Proofs.Text.Trim
/-!
The ways to ask for a variable. Its token alone is an expression, its name and its token are what
can be inspected, and a token in a template gives way to its value. However the name is spelled and
whatever blanks stand around it, all of them tell the same of it.
-/

namespace Stepwise

open Template

namespace Template

def tokenSpellings (name : List Char) : List (List Char) :=
  ['$' :: name, '$' :: '\x7b' :: (name ++ ['\x7d'])]

theorem mem_tokenSpellings {name cs : List Char} :
    cs ∈ tokenSpellings name ↔ ∃ isBraced, cs = (Piece.token name isBraced).source := by
  simp [tokenSpellings, Piece.source]

theorem isBlank_of_isNameChar {c : Char} (inName : isNameChar c = true) :
    Text.isBlank c = false := by
  have code := toNat_of_isNameChar inName
  simp only [Text.isBlank, Text.blankRanges, List.any_cons, List.any_nil, Bool.or_false,
    Bool.or_eq_false_iff, Bool.and_eq_false_iff, decide_eq_false_iff_not]
  omega

theorem IsName.solid {name : List Char} (isName : IsName name) :
    ∀ c ∈ name, Text.isBlank c = false :=
  fun c member => isBlank_of_isNameChar (isName.all c member)

theorem IsName.solid_token {name cs : List Char} (isName : IsName name)
    (spelled : cs ∈ tokenSpellings name) : ∀ c ∈ cs, Text.isBlank c = false := by
  have marks : Text.isBlank '$' = false ∧ Text.isBlank '\x7b' = false ∧
      Text.isBlank '\x7d' = false := by decide
  have solid := isName.solid
  simp only [tokenSpellings, List.mem_cons, List.not_mem_nil, or_false] at spelled
  rcases spelled with rfl | rfl
  · simpa [marks] using solid
  · simpa [marks, or_imp, forall_and] using solid

theorem scan_eq_token {cs name : List Char} {isBraced : Bool} :
    scan cs = [.token name isBraced] ↔
      IsName name ∧ cs = (Piece.token name isBraced).source := by
  constructor
  · intro one
    have reads := reads_scan cs
    rw [one] at reads
    refine ⟨?_, by simpa using reads.flatMap_source.symm⟩
    cases reads with
    | braced isName _ => exact isName
    | bare isName _ _ => exact isName
  · rintro ⟨isName, rfl⟩
    refine (Reads.eq_scan ?_).symm
    cases isBraced with
    | true => exact .braced isName .done
    | false =>
      have ends : Ends [] := fun c front => by simp at front
      simpa [Piece.source] using Reads.bare isName ((longest_iff isName).2 ends) .done

end Template

namespace Variables

theorem soleToken?_iff {template name : String} : soleToken? template = some name ↔
    IsName name.toList ∧ Text.trimChars template.toList ∈ tokenSpellings name.toList := by
  rw [mem_tokenSpellings, ← exists_and_left]
  constructor
  · intro sole
    unfold soleToken? at sole
    split at sole
    · next own isBraced scanned =>
      obtain rfl := Option.some.inj sole
      rw [String.toList_ofList]
      exact ⟨isBraced, scan_eq_token.1 scanned⟩
    · simp at sole
  · rintro ⟨isBraced, token⟩
    simp only [soleToken?, scan_eq_token.2 token, String.ofList_toList]

inductive Answers (v : Variables) (name : String) : Option String → VariableSource → Prop
  | bound {value : String} {source : VariableSource} (found : v.find? name = some (value, source)) :
      Answers v name (some value) source
  | unbound (missing : v.find? name = none) : Answers v name none .unknown

variable {v : Variables} {name : String}

theorem answers_lookup (v : Variables) (name : String) :
    v.Answers name (v.lookup name).1 (v.lookup name).2 := by
  unfold lookup
  split
  · next found => exact .bound found
  · next missing => exact .unbound missing

theorem value?_eq_lookup (v : Variables) (name : String) : v.value? name = (v.lookup name).1 := by
  unfold value? lookup
  cases v.find? name with
  | none => rfl
  | some e => rfl

theorem evaluate_token (options : Options) {expression : String} {cs : List Char}
    (isName : IsName name.toList) (spelled : cs ∈ tokenSpellings name.toList)
    (around : Text.Around cs expression) : v.evaluate options expression =
      .done (.token name (v.lookup name).1 (v.lookup name).2) := by
  have trimmed := around.trimmed (isName.solid_token spelled)
  have sole : soleToken? expression = some name := soleToken?_iff.2 ⟨isName, trimmed ▸ spelled⟩
  unfold evaluate
  split
  · next template text =>
    rw [trimmed] at text
    rw [text] at spelled
    simp [tokenSpellings] at spelled
  · rw [sole]

theorem dropWhile_dollar (isName : IsName name.toList) (rest : List Char) :
    (name.toList ++ rest).dropWhile (· == '$') = name.toList ++ rest := by
  obtain ⟨c, more, text, start, -⟩ := isName
  have other : c ≠ '$' := by
    rintro rfl
    exact absurd start (by decide)
  rw [text, List.cons_append, List.dropWhile_cons, if_neg (by simpa using other)]

theorem inspectedName_name (isName : IsName name.toList) {spelling : String}
    (bare : (Text.trimChars spelling.toList).dropWhile (· == '$') = name.toList) :
    inspectedName spelling = name := by
  unfold inspectedName
  rw [bare]
  obtain ⟨c, more, text, start, -⟩ := isName
  dsimp only
  split
  · next opened =>
    rw [text] at opened
    rw [(List.cons.inj opened).1] at start
    exact absurd start (by decide)
  · exact String.ofList_toList

theorem inspectedName_braced {spelling : String} (bare : (Text.trimChars spelling.toList).dropWhile
      (· == '$') = '\x7b' :: (name.toList ++ ['\x7d'])) : inspectedName spelling = name := by
  unfold inspectedName
  simp only [bare, List.reverse_append, List.reverse_singleton, List.singleton_append,
    List.reverse_reverse, String.ofList_toList]

theorem inspectedName_spelled (isName : IsName name.toList) {cs : List Char}
    (spelled : cs ∈ name.toList :: tokenSpellings name.toList) {spelling : String}
    (around : Text.Around cs spelling) : inspectedName spelling = name := by
  rcases List.mem_cons.1 spelled with rfl | token
  · apply inspectedName_name isName
    rw [around.trimmed isName.solid]
    simpa using dropWhile_dollar isName []
  · have trimmed := around.trimmed (isName.solid_token token)
    simp only [tokenSpellings, List.mem_cons, List.not_mem_nil, or_false] at token
    rcases token with rfl | rfl
    · apply inspectedName_name isName
      rw [trimmed, List.dropWhile_cons, if_pos (by decide)]
      simpa using dropWhile_dollar isName []
    · apply inspectedName_braced
      rw [trimmed]
      rfl

theorem fill_token (isName : IsName name.toList) {cs : List Char}
    (spelled : cs ∈ tokenSpellings name.toList) :
    v.fill (String.ofList cs) = (v.lookup name).1.getD (String.ofList cs) := by
  obtain ⟨isBraced, rfl⟩ := mem_tokenSpellings.1 spelled
  rw [fill, fillTemplate, fillChars, String.toList_ofList, scan_eq_token.2 ⟨isName, rfl⟩,
    List.flatMap_singleton, Piece.fill, String.ofList_toList, value?_eq_lookup]
  cases (v.lookup name).1 with
  | none => rfl
  | some value => exact String.ofList_toList

end Variables

namespace ValueType

theorem infer_ne_undefined (value : String) : infer value ≠ .undefined := by
  unfold infer
  dsimp only
  split
  · simp
  · split
    · simp
    · split
      · simp
      · simp
      · simp

end ValueType

structure Inspection.Tells (i : Inspection) (name : String) (value : Option String)
    (source : VariableSource) : Prop where
  ofName : i.name = name
  sameValue : i.value = value
  sameSource : i.source = source
  length : i.length = (value.map String.length).getD 0
  undefined : i.valueType = .undefined ↔ value = none

namespace Variables

variable {v : Variables} {name : String}

theorem inspect_spelled (isName : IsName name.toList) {cs : List Char}
    (spelled : cs ∈ name.toList :: tokenSpellings name.toList) {spelling : String}
    (around : Text.Around cs spelling) :
    (v.inspect spelling).Tells name (v.lookup name).1 (v.lookup name).2 := by
  have own : inspectedName spelling = name := inspectedName_spelled isName spelled around
  have type : ((v.lookup name).1.map ValueType.infer).getD .undefined = .undefined ↔
      (v.lookup name).1 = none := by
    cases (v.lookup name).1 with
    | none => simp
    | some value => simp [ValueType.infer_ne_undefined]
  unfold inspect
  rw [own]
  exact ⟨rfl, rfl, rfl, rfl, type⟩

/-- All ways to ask for a name get one answer: its token as an expression, the name and its token
inspected, and its token filled in as a template. -/
structure OneAnswer (v : Variables) (name : String) (value : Option String)
    (source : VariableSource) : Prop where
  evaluated : ∀ (options : Options), ∀ cs ∈ tokenSpellings name.toList, ∀ expression,
    Text.Around cs expression → v.evaluate options expression = .done (.token name value source)
  inspected : ∀ cs ∈ name.toList :: tokenSpellings name.toList, ∀ spelling,
    Text.Around cs spelling → (v.inspect spelling).Tells name value source
  filled : ∀ cs ∈ tokenSpellings name.toList,
    v.fill (String.ofList cs) = value.getD (String.ofList cs)

end Variables

/-- A text is the token of a name just if it spells it, blanks around it aside; and what a state
answers for a name is what it tells however it is asked. -/
theorem readers_agree :
    (∀ template name, Variables.soleToken? template = some name ↔
      IsName name.toList ∧ Text.trimChars template.toList ∈ tokenSpellings name.toList) ∧
    ∀ (v : Variables) (name : String), IsName name.toList →
      ∃ value source, v.Answers name value source ∧ v.OneAnswer name value source := by
  refine ⟨fun template name => Variables.soleToken?_iff, ?_⟩
  intro v name isName
  refine ⟨_, _, v.answers_lookup name, ?_⟩
  exact {
    evaluated := fun options cs spelled expression around =>
      Variables.evaluate_token options isName spelled around
    inspected := fun cs spelled spelling around =>
      Variables.inspect_spelled isName spelled around
    filled := fun cs spelled => Variables.fill_token isName spelled }

theorem dollar_value_agrees :
    let v : Variables := ⟨∅, Table.ofList [("_x1", "$y")], ∅⟩
    IsName "_x1".toList ∧
      v.evaluate .standard "\t${_x1} " = .done (.token "_x1" (some "$y") .persistentMemory) ∧
      (v.inspect " $_x1\n").length = 2 ∧ v.fill "$_x1" = "$y" := by
  intro v
  have isName : IsName "_x1".toList := ⟨'_', ['x', '1'], by decide, by decide, by decide⟩
  have found : v.find? "_x1" = some ("$y", .persistentMemory) := by decide +kernel
  obtain ⟨value, source, answers, one⟩ := readers_agree.2 v "_x1" isName
  cases answers with
  | unbound missing => simp [found] at missing
  | bound held =>
    obtain ⟨rfl, rfl⟩ := Prod.mk.inj (Option.some.inj (found.symm.trans held))
    refine ⟨isName, ?_, ?_, ?_⟩
    · exact one.evaluated .standard ('$' :: '\x7b' :: ("_x1".toList ++ ['\x7d']))
        (by simp [tokenSpellings]) "\t${_x1} "
        ⟨['\t'], [' '], by decide, by decide, by decide⟩
    · rw [(one.inspected ('$' :: "_x1".toList) (by simp [tokenSpellings]) " $_x1\n"
        ⟨[' '], ['\n'], by decide, by decide, by decide⟩).length]
      decide
    · exact one.filled ('$' :: "_x1".toList) (by simp [tokenSpellings])

end Stepwise
