import Stepwise.Console.Line
import Stepwise.Proofs.Text.Case
import Stepwise.Proofs.Text.Trim
/-!
What the lines of an operator say. A line that is not blank has a first word and a rest, both
without blanks around them, and these two alone decide what it says (`line_grammar`). The words of a
command are listed by `ConsoleCommand.words`, what the rest has to be by `ConsoleCommand.TakenFrom`,
and `ConsoleCommand.Refused` says which lines are refused, and why.
-/

namespace Stepwise

namespace Text

/-- A line is read as its first word and the rest behind it, without the blanks around them. -/
structure FirstWord (line word rest : String) : Prop where
  nonempty : word ≠ ""
  solid : ∀ c ∈ word.toList, isBlank c = false
  trimmed : trim rest = rest
  around : ∃ gap : List Char, gap.all isBlank = true ∧ (gap = [] → rest = "") ∧
    Around (word.toList ++ gap ++ rest.toList) line

namespace FirstWord

theorem exists_of_trim_ne {line : String} (something : trim line ≠ "") :
    ∃ word rest, FirstWord line word rest := by
  have outer := around_trimChars line
  have start : ∀ c ∈ (trimChars line.toList).head?, isBlank c = false := trimChars_head
  have nonempty : trimChars line.toList ≠ [] := by
    intro none
    exact something (by rw [trim, none])
  generalize trimChars line.toList = cs at outer start nonempty
  let word := cs.takeWhile fun c => !isBlank c
  let tail := cs.dropWhile fun c => !isBlank c
  obtain ⟨gap, last, blank, behind, text⟩ := around_trimChars (String.ofList tail)
  rw [String.toList_ofList] at text
  refine ⟨String.ofList word, trim (String.ofList tail), ?_, ?_, trim_trim _, gap, blank, ?_, ?_⟩
  · intro none
    obtain ⟨c, rest, rfl⟩ := List.exists_cons_of_ne_nil nonempty
    have solid : isBlank c = false := start c rfl
    rw [← String.toList_eq_nil_iff, String.toList_ofList] at none
    simp [word, solid] at none
  · intro c member
    rw [String.toList_ofList] at member
    simpa using List.mem_takeWhile_imp member
  · -- a rest right behind the word would begin with a blank
    rintro rfl
    have inner : ∀ c ∈ (trimChars tail).head?, isBlank c = false := trimChars_head
    have front : ∀ c ∈ tail.head?, (!isBlank c) = false := dropWhile_head
    rw [trim, String.toList_ofList, ← String.toList_eq_nil_iff, String.toList_ofList]
    cases rest : trimChars tail with
    | nil => rfl
    | cons c more =>
      rw [rest] at text inner
      have blankFront := front c (by rw [text]; rfl)
      rw [inner c rfl] at blankFront
      exact absurd blankFront Bool.noConfusion
  · obtain ⟨before, after, front, back, whole⟩ := outer
    refine ⟨before, last ++ after, front, by rw [List.all_append, behind, back]; rfl, ?_⟩
    have parts : cs = word ++ (gap ++ trimChars tail ++ last) := by
      rw [← text]
      exact List.takeWhile_append_dropWhile.symm
    rw [whole, parts, trim, String.toList_ofList, String.toList_ofList, String.toList_ofList]
    simp only [List.append_assoc]

/-- What is left of a line between its outer blanks: the word, then blanks and the rest, if there is
any. -/
theorem split {line word rest : String} (first : FirstWord line word rest) :
    ∃ tail, trimChars line.toList = word.toList ++ tail ∧
      (∀ c ∈ tail.head?, isBlank c = true) ∧ trimChars tail = rest.toList := by
  obtain ⟨gap, blank, behind, around⟩ := first.around
  obtain ⟨c, letters, text⟩ := List.exists_cons_of_ne_nil
    (show word.toList ≠ [] from fun none => first.nonempty (String.toList_eq_nil_iff.1 none))
  have solid : isBlank c = false := first.solid c (text ▸ List.mem_cons_self)
  rw [around.trimChars_eq]
  by_cases bare : rest = ""
  · -- blanks behind the only word are around it
    subst bare
    refine ⟨[], ?_, by simp, rfl⟩
    have alone := @trimChars_padded [] _ rfl blank word.toList
    simpa [trimChars_of_solid first.solid] using alone
  · have whole := trim_eq_self_iff.1 first.trimmed
    have ends : trimEnd rest.toList = rest.toList := trimEnd_of_trimmed whole
    refine ⟨gap ++ rest.toList, ?_, ?_, ?_⟩
    · have left : trimEnd rest.toList ≠ [] := by rwa [ends, ne_eq, String.toList_eq_nil_iff]
      rw [text, List.append_assoc, List.cons_append, trimChars_cons solid, ← List.append_assoc,
        trimEnd_append_left left, ends, List.append_assoc]
    · cases gap with
      | nil => exact absurd (behind rfl) bare
      | cons b more =>
        simp only [List.all_cons, Bool.and_eq_true] at blank
        simpa using blank.1
    · have inner := @trimChars_padded _ [] blank rfl rest.toList
      simpa [whole] using inner

end FirstWord

end Text

namespace ConsoleCommand

open Text (FirstWord SameButCase)

def words : ConsoleCommand → List String
  | debug .stepOver => ["step", "s", "next", "n"]
  | debug .stepInto => ["into", "i"]
  | debug .stepOut => ["out", "o"]
  | debug .resume => ["continue", "c"]
  | debug .pause => ["pause"]
  | debug .reset => ["reset"]
  | debug (.evaluate _) => ["eval", "e", "p"]
  | debug (.inspect _) => ["inspect"]
  | breakAt _ => ["break", "b"]
  | clear _ => ["clear"]
  | risk _ => ["risk"]
  | state => ["state"]
  | help => ["help", "h", "?"]
  | quit => ["quit", "q", "exit"]

/-- Whether the rest of a line is what a command takes. Most commands take no notice of it. -/
def TakenFrom (rest : String) : ConsoleCommand → Prop
  | debug (.evaluate argument) | debug (.inspect argument) | breakAt argument | clear argument =>
    argument = rest ∧ rest ≠ ""
  | risk level => SameButCase rest level.name
  | _ => True

/-- What is missing where a command has to take something and there is nothing. -/
def wanted? : ConsoleCommand → Option String
  | debug (.evaluate _) => some "an expression"
  | debug (.inspect _) => some "a variable name"
  | breakAt _ | clear _ => some "a step id"
  | risk _ => some "a risk level"
  | _ => none

inductive Refused (word rest : String) : LineError → Prop
  | unknown (other : ∀ command : ConsoleCommand, word ∉ command.words) :
      Refused word rest (.unknownWord word)
  | lacks {command : ConsoleCommand} {what : String} (begins : word ∈ command.words)
      (wanted : command.wanted? = some what) (nothing : rest = "") :
      Refused word rest (.missingArgument word what)
  | noLevel {level : RiskLevel} (begins : word ∈ (risk level).words) (something : rest ≠ "")
      (other : ∀ level : RiskLevel, ¬SameButCase rest level.name) :
      Refused word rest (.refused (.unknownRiskLevel (Text.lower rest)))

def verb : ConsoleCommand → Verb
  | debug (.evaluate _) => .withArgument "an expression" fun s => debug (.evaluate s)
  | debug (.inspect _) => .withArgument "a variable name" fun s => debug (.inspect s)
  | breakAt _ => .withArgument "a step id" breakAt
  | clear _ => .withArgument "a step id" clear
  | risk _ => .risk
  | command => .plain command

theorem mem_verbs (command : ConsoleCommand) : (command.words, command.verb) ∈ verbs := by
  unfold verbs
  cases command with
  | debug command => cases command <;> simp [words, verb]
  | _ => simp [words, verb]

theorem exists_of_mem_verbs {names : List String} {verb : Verb} (row : (names, verb) ∈ verbs) :
    ∃ command : ConsoleCommand, names = command.words ∧ verb = command.verb := by
  simp only [verbs, List.mem_cons, List.not_mem_nil, or_false, Prod.mk.injEq] at row
  rcases row with h | h | h | h | h | h | h | h | h | h | h | h | h | h
  · exact ⟨debug .stepOver, h⟩
  · exact ⟨debug .stepInto, h⟩
  · exact ⟨debug .stepOut, h⟩
  · exact ⟨debug .resume, h⟩
  · exact ⟨debug .pause, h⟩
  · exact ⟨debug .reset, h⟩
  · exact ⟨debug (.evaluate ""), h⟩
  · exact ⟨debug (.inspect ""), h⟩
  · exact ⟨breakAt "", h⟩
  · exact ⟨clear "", h⟩
  · exact ⟨risk .low, h⟩
  · exact ⟨state, h⟩
  · exact ⟨help, h⟩
  · exact ⟨quit, h⟩

theorem verbs_apart : (verbs.flatMap (·.1)).Nodup := by decide

theorem find?_of_apart {rows : List (List String × Verb)} (apart : (rows.flatMap (·.1)).Nodup)
    {row : List String × Verb} (among : row ∈ rows) {word : String} (member : word ∈ row.1) :
    rows.find? (fun r => r.1.contains word) = some row := by
  induction rows with
  | nil => exact nomatch among
  | cons head rest ih =>
    rw [List.flatMap_cons, List.nodup_append] at apart
    obtain ⟨-, others, disjoint⟩ := apart
    rcases List.mem_cons.1 among with rfl | later
    · rw [List.find?_cons_of_pos (by simpa using member)]
    · have absent : word ∉ head.1 := fun early =>
        disjoint word early word (List.mem_flatMap.2 ⟨row, later, member⟩) rfl
      rw [List.find?_cons_of_neg (by simpa using absent), ih others later]

theorem verb?_of_mem {word : String} {command : ConsoleCommand} (member : word ∈ command.words) :
    verb? word = some command.verb := by
  rw [verb?, find?_of_apart verbs_apart (mem_verbs command) member, Option.map_some]

theorem exists_of_verb? {word : String} {verb : Verb} (known : verb? word = some verb) :
    ∃ command : ConsoleCommand, word ∈ command.words ∧ verb = command.verb := by
  obtain ⟨⟨names, own⟩, found, rfl⟩ := Option.map_eq_some_iff.1 known
  obtain ⟨command, rfl, rfl⟩ := exists_of_mem_verbs (List.mem_of_find?_eq_some found)
  exact ⟨command, by simpa using List.find?_some found, rfl⟩

theorem verb?_eq_none_iff {word : String} :
    verb? word = none ↔ ∀ command : ConsoleCommand, word ∉ command.words := by
  constructor
  · intro unknown command member
    rw [verb?_of_mem member] at unknown
    exact nomatch unknown
  · intro other
    cases known : verb? word with
    | none => rfl
    | some verb =>
      obtain ⟨command, member, -⟩ := exists_of_verb? known
      exact absurd member (other command)

end ConsoleCommand

namespace RiskLevel

open Text (SameButCase)

theorem ofName?_eq_some_iff {s : String} {level : RiskLevel} :
    ofName? s = some level ↔ s = level.name := by
  constructor
  · intro found
    have named : (level.name == s) = true :=
      @List.find?_some _ (fun l : RiskLevel => l.name == s) _ _ found
    exact (beq_iff_eq.1 named).symm
  · rintro rfl
    cases level <;> rfl

theorem small_name (level : RiskLevel) : ∀ c ∈ level.name.toList, c.isLower = true ∧ c ≠ 'k' := by
  cases level <;> simp [name]

theorem ofName?_lower {s : String} {level : RiskLevel} :
    ofName? (Text.lower s) = some level ↔ SameButCase s level.name := by
  rw [ofName?_eq_some_iff, Text.lower_eq_iff level.small_name]

theorem ofText_eq_ok {s : String} {level : RiskLevel} :
    ofText s = .ok level ↔ SameButCase s level.name := by
  rw [← ofName?_lower, ofText]
  cases ofName? (Text.lower s) with
  | none => simp
  | some other => simp

theorem ofText_eq_error {s : String} {refusal : Refusal} :
    ofText s = .error refusal ↔ (∀ level : RiskLevel, ¬SameButCase s level.name) ∧
      refusal = .unknownRiskLevel (Text.lower s) := by
  simp only [← ofName?_lower, ofText]
  cases ofName? (Text.lower s) with
  | none => simp [eq_comm]
  | some level => simp

theorem not_sameButCase_empty (level : RiskLevel) : ¬SameButCase "" level.name := by
  cases level <;> (rw [name]; decide)

end RiskLevel

namespace ConsoleCommand

open Text (FirstWord SameButCase)

variable {word rest : String} {command : ConsoleCommand}

theorem argument_rest (something : rest ≠ "") (what : String) :
    argument word what rest = .ok rest := by
  rw [argument, if_neg (by rwa [String.isEmpty_iff])]

theorem withArgument_rest (something : rest ≠ "") (what : String) (make : String → ConsoleCommand) :
    (Verb.withArgument what make).apply word rest = .ok (make rest) := by
  rw [Verb.apply, argument_rest something, Except.map]

theorem risk_level {level : RiskLevel} (same : SameButCase rest level.name) :
    Verb.risk.apply word rest = .ok (.risk level) := by
  have something : rest ≠ "" := by
    rintro rfl
    exact level.not_sameButCase_empty same
  rw [Verb.apply, argument_rest something]
  simp only [bind, Except.bind, RiskLevel.ofText_eq_ok.2 same]

theorem risk_noLevel (something : rest ≠ "")
    (other : ∀ level : RiskLevel, ¬SameButCase rest level.name) :
    Verb.risk.apply word rest = .error (.refused (.unknownRiskLevel (Text.lower rest))) := by
  rw [Verb.apply, argument_rest something]
  simp only [bind, Except.bind, RiskLevel.ofText_eq_error.2 ⟨other, rfl⟩]

theorem verb_taken (taken : command.TakenFrom rest) :
    command.verb.apply word rest = .ok command := by
  cases command with
  | debug command =>
    cases command with
    | evaluate s | inspect s =>
      obtain ⟨rfl, something⟩ := taken
      exact withArgument_rest something _ _
    | _ => rfl
  | breakAt s | clear s =>
    obtain ⟨rfl, something⟩ := taken
    exact withArgument_rest something _ _
  | risk level => exact risk_level taken
  | _ => rfl

theorem verb_lacking {what : String} (wanted : command.wanted? = some what) :
    command.verb.apply word "" = .error (.missingArgument word what) := by
  cases command with
  | debug command =>
    cases command with
    | evaluate s | inspect s => cases wanted; rfl
    | _ => exact nomatch wanted
  | breakAt s | clear s => cases wanted; rfl
  | risk level => cases wanted; rfl
  | _ => exact nomatch wanted

inductive Answered (command : ConsoleCommand) (word rest : String) :
    Except LineError ConsoleCommand → Prop
  | taken {other : ConsoleCommand} (same : other.words = command.words)
      (taken : other.TakenFrom rest) : Answered command word rest (.ok other)
  | refused {e : LineError} (refused : Refused word rest e) : Answered command word rest (.error e)

theorem answered_withArgument {what : String} {make : String → ConsoleCommand}
    (begins : word ∈ command.words) (wanted : command.wanted? = some what)
    (same : (make rest).words = command.words) (takes : rest ≠ "" → (make rest).TakenFrom rest) :
    Answered command word rest ((Verb.withArgument what make).apply word rest) := by
  by_cases nothing : rest = ""
  · subst nothing
    exact .refused (.lacks begins wanted rfl)
  · rw [withArgument_rest nothing]
    exact .taken same (takes nothing)

theorem answered_risk {level : RiskLevel} (begins : word ∈ (risk level).words) :
    Answered (risk level) word rest (Verb.risk.apply word rest) := by
  by_cases nothing : rest = ""
  · subst nothing
    exact .refused (.lacks begins rfl rfl)
  · by_cases named : ∃ level : RiskLevel, SameButCase rest level.name
    · obtain ⟨level, same⟩ := named
      rw [risk_level same]
      exact .taken rfl same
    · have other : ∀ level : RiskLevel, ¬SameButCase rest level.name := not_exists.1 named
      rw [risk_noLevel nothing other]
      exact .refused (.noLevel begins nothing other)

theorem answered_verb (begins : word ∈ command.words) :
    Answered command word rest (command.verb.apply word rest) := by
  cases command with
  | debug command =>
    cases command with
    | evaluate s | inspect s => exact answered_withArgument begins rfl rfl fun some => ⟨rfl, some⟩
    | _ => exact .taken rfl trivial
  | breakAt s | clear s => exact answered_withArgument begins rfl rfl fun some => ⟨rfl, some⟩
  | risk level => exact answered_risk begins
  | _ => exact .taken rfl trivial

theorem split_firstWord {tail : List Char} (solid : ∀ c ∈ word.toList, Text.isBlank c = false)
    (blank : ∀ c ∈ tail.head?, Text.isBlank c = true)
    (trimmed : Text.trimChars tail = rest.toList) :
    split (word.toList ++ tail) = (word, rest) := by
  have inWord : ∀ c ∈ word.toList, (!Text.isBlank c) = true := by simpa using solid
  have stops : (tail.takeWhile fun c => !Text.isBlank c) = [] ∧
      (tail.dropWhile fun c => !Text.isBlank c) = tail := by
    cases tail with
    | nil => exact ⟨rfl, rfl⟩
    | cons c more => simp [blank c rfl]
  rw [split, List.takeWhile_append_of_pos inWord, List.dropWhile_append_of_pos inWord, stops.1,
    stops.2, trimmed, List.append_nil, String.ofList_toList, String.ofList_toList]

section Line

variable {line : String} (first : FirstWord line word rest)

include first

theorem ofLine_firstWord :
    ofLine line = match verb? word with
      | some verb => (verb.apply word rest).map some
      | none => .error (.unknownWord word) := by
  obtain ⟨tail, whole, blank, trimmed⟩ := first.split
  have parts := split_firstWord first.solid blank trimmed
  obtain ⟨c, letters, text⟩ := List.exists_cons_of_ne_nil
    (show word.toList ≠ [] from fun none => first.nonempty (String.toList_eq_nil_iff.1 none))
  rw [text, List.cons_append] at whole parts
  rw [ofLine, whole]
  exact congrArg (fun p : String × String =>
    match verb? p.1 with
    | some verb => (verb.apply p.1 p.2).map some
    | none => .error (.unknownWord p.1)) parts

theorem ofLine_taken (begins : word ∈ command.words) (taken : command.TakenFrom rest) :
    ofLine line = .ok (some command) := by
  simp only [ofLine_firstWord first, verb?_of_mem begins, verb_taken taken, Except.map]

theorem ofLine_refused {e : LineError} (refused : Refused word rest e) :
    ofLine line = .error e := by
  rw [ofLine_firstWord first]
  cases refused with
  | unknown other => simp only [verb?_eq_none_iff.2 other]
  | lacks begins wanted nothing =>
    subst nothing
    simp only [verb?_of_mem begins, verb_lacking wanted, Except.map]
  | noLevel begins something other =>
    simp only [verb?_of_mem begins, verb, risk_noLevel something other, Except.map]

theorem ofLine_cases :
    (∃ command : ConsoleCommand, word ∈ command.words ∧ command.TakenFrom rest ∧
      ofLine line = .ok (some command)) ∨ ∃ e, Refused word rest e ∧ ofLine line = .error e := by
  cases known : verb? word with
  | none =>
    have refused : Refused word rest _ := .unknown (verb?_eq_none_iff.1 known)
    exact .inr ⟨_, refused, ofLine_refused first refused⟩
  | some verb =>
    obtain ⟨command, begins, -⟩ := exists_of_verb? known
    have answered : Answered command word rest _ := answered_verb begins
    generalize command.verb.apply word rest = answer at answered
    cases answered with
    | taken same taken =>
      exact .inl ⟨_, same ▸ begins, taken, ofLine_taken first (same ▸ begins) taken⟩
    | refused refused => exact .inr ⟨_, refused, ofLine_refused first refused⟩

theorem ofLine_eq_ok : ofLine line = .ok (some command) ↔
    word ∈ command.words ∧ command.TakenFrom rest := by
  refine ⟨fun answer => ?_, fun ⟨begins, taken⟩ => ofLine_taken first begins taken⟩
  rcases ofLine_cases first with ⟨other, begins, taken, said⟩ | ⟨e, -, failed⟩
  · rw [answer] at said
    cases said
    exact ⟨begins, taken⟩
  · rw [answer] at failed
    exact nomatch failed

theorem ofLine_eq_error {e : LineError} : ofLine line = .error e ↔ Refused word rest e := by
  refine ⟨fun answer => ?_, ofLine_refused first⟩
  rcases ofLine_cases first with ⟨other, -, -, said⟩ | ⟨own, refused, failed⟩
  · rw [answer] at said
    exact nomatch said
  · rw [answer] at failed
    cases failed
    exact refused

end Line

theorem ofLine_blank {line : String} (blank : Text.trim line = "") : ofLine line = .ok none := by
  rw [Text.trim, ← String.toList_eq_nil_iff, String.toList_ofList] at blank
  simp only [ofLine, blank]

theorem ofLine_eq_none_iff {line : String} : ofLine line = .ok none ↔ Text.trim line = "" := by
  refine ⟨fun answer => ?_, ofLine_blank⟩
  by_contra something
  obtain ⟨word, rest, first⟩ := FirstWord.exists_of_trim_ne something
  rcases ofLine_cases first with ⟨command, -, -, said⟩ | ⟨e, -, failed⟩
  · rw [answer] at said
    exact nomatch said
  · rw [answer] at failed
    exact nomatch failed

theorem ofLine_trim (line : String) : ofLine (Text.trim line) = ofLine line := by
  have same := (Text.around_trimChars line).trimChars_eq
  rw [ofLine, ofLine, Text.trim, String.toList_ofList, ← same]

theorem verbs_solid : ∀ word ∈ verbs.flatMap (·.1),
    word ≠ "" ∧ word.toList.all (!Text.isBlank ·) = true := by
  decide

theorem firstWord_of_words (begins : word ∈ command.words) (trimmed : Text.trim rest = rest)
    {gap : List Char} (blank : gap.all Text.isBlank = true) (apart : gap = [] → rest = "")
    {line : String} (around : Text.Around (word.toList ++ gap ++ rest.toList) line) :
    FirstWord line word rest := by
  obtain ⟨nonempty, solid⟩ :=
    verbs_solid word (List.mem_flatMap.2 ⟨_, mem_verbs command, begins⟩)
  exact ⟨nonempty, by simpa using solid, trimmed, gap, blank, apart, around⟩

structure ToldBy (line word rest : String) : Prop where
  said : ∀ command : ConsoleCommand, ofLine line = .ok (some command) ↔
    word ∈ command.words ∧ command.TakenFrom rest
  refused : ∀ e, ofLine line = .error e ↔ Refused word rest e

end ConsoleCommand

section

open ConsoleCommand Text

/-- Blanks around a line do not matter, and a blank line says nothing. Any other has a first word
and a rest, and says a command just if the word is one of the command's and the rest is what the
command takes. So every command is told by each of its words, blanks and what it takes. -/
theorem line_grammar :
    (∀ line, ofLine (trim line) = ofLine line) ∧
    (∀ line, ofLine line = .ok none ↔ trim line = "") ∧
    (∀ line, trim line ≠ "" → ∃ word rest, FirstWord line word rest) ∧
    (∀ line word rest, FirstWord line word rest → ToldBy line word rest) ∧
    ∀ (command : ConsoleCommand), ∀ word ∈ command.words, ∀ (gap : List Char) (rest line : String),
      command.TakenFrom rest → trim rest = rest → gap.all isBlank = true →
      (gap = [] → rest = "") → Around (word.toList ++ gap ++ rest.toList) line →
        ofLine line = .ok (some command) := by
  refine ⟨ofLine_trim, fun line => ofLine_eq_none_iff,
    fun line something => FirstWord.exists_of_trim_ne something, ?_, ?_⟩
  · intro line word rest first
    exact ⟨fun command => ofLine_eq_ok first, fun e => ofLine_eq_error first⟩
  · intro command word begins gap rest line taken trimmed blank apart around
    exact ofLine_taken (firstWord_of_words begins trimmed blank apart around) begins taken

theorem eval_line_told :
    trim "$out  quit" = "$out  quit" ∧
      ofLine "\u2003p\t $out  quit \n" = .ok (some (.debug (.evaluate "$out  quit"))) ∧
      FirstWord "risk  LOW" "risk" "LOW" ∧ ofLine "risk  LOW" = .ok (some (.risk .low)) ∧
      FirstWord "break " "break" "" ∧
      ∃ e, ofLine "break " = .error e ∧ e.message = "'break' needs a step id" := by
  obtain ⟨-, -, -, told, spelled⟩ := line_grammar
  have trimmed : trim "$out  quit" = "$out  quit" := by decide +kernel
  have risk : FirstWord "risk  LOW" "risk" "LOW" :=
    ⟨by decide, by simp; decide, by decide +kernel, [' ', ' '], by decide, by decide, [], [],
      by decide⟩
  have bare : FirstWord "break " "break" "" :=
    ⟨by decide, by simp; decide, by decide, [], by decide, by decide, [], [' '], by decide⟩
  refine ⟨trimmed, ?_, risk, ?_, bare, ?_⟩
  · exact spelled (.debug (.evaluate "$out  quit")) "p" (by decide) ['\t', ' '] "$out  quit" _
      ⟨rfl, by decide⟩ trimmed (by decide) (by decide)
      ⟨['\u2003'], [' ', '\n'], by decide, by decide, by decide⟩
  · have low : SameButCase "LOW" "low" := by decide
    exact ((told _ _ _ risk).said (.risk .low)).2 ⟨by decide, low⟩
  · have lacks : Refused "break" "" (.missingArgument "break" "a step id") :=
      @Refused.lacks _ _ (.breakAt "") _ (by decide) rfl rfl
    exact ⟨_, ((told _ _ _ bare).refused _).2 lacks, by decide⟩

end

end Stepwise
