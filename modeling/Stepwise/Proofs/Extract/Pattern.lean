import Stepwise.Proofs.Extract.Grammar
import Stepwise.Proofs.Template.Pattern
/-!
Named values as a pattern over characters: the name, blanks, a separator, blanks, and then of three
kinds of value the first that matches. To take the first match at the leftmost place that has one,
the place at a boundary of words, gives what reading by the grammar gives; nothing is won by giving
back a blank or a character of the value.
-/

namespace Stepwise

namespace Extract

open Template (Pattern Hit)
open Template.Pattern

def blanks : Pattern := .many Text.isBlank

def between (quote : Char) : Pattern :=
  .follow (.only quote) (.follow (.group (.many (· != quote))) (.only quote))

def run : Pattern := .group (.follow (.char isBare) (.many isBare))

def anyValue : Pattern := .either (between '"') (.either (between '\x27') run)

def separated : Pattern :=
  .follow blanks (.follow (.char (separators.contains ·)) (.follow blanks anyValue))

def namedValue (name : List Char) : Pattern :=
  name.foldr (fun n p => .follow (.char fun c => Text.fold n == Text.fold c) p) separated

theorem groups_only (quote : Char) (cs : List Char) :
    (only quote).groups cs = if cs.head? = some quote then [none] else [] := by
  cases cs with
  | nil => rfl
  | cons c rest =>
    by_cases same : c = quote
    · simp [groups, same]
    · simp [groups, hits_only_other same, same]

theorem groups_between_quote (quote : Char) (rest : List Char) :
    (between quote).groups (quote :: rest) = (upTo? quote rest).toList.map some := by
  have stops : ∀ c after, (c != quote) = true → (only quote).hits (c :: after) = [] := by
    intro c after other
    exact hits_only_other (by simpa using other) after
  rw [between, only, groups_follow_char, if_pos (beq_self_eq_true quote), ← only,
    groups_follow_group stops, groups_only]
  cases closed : upTo? quote rest with
  | some inner =>
    obtain ⟨next, after, text⟩ := upTo?_eq_some.1 closed
    obtain ⟨inside, behind⟩ : rest.takeWhile (· != quote) = inner ∧
        rest.dropWhile (· != quote) = quote :: after := by
      refine span_iff.2 ⟨fun c member => ?_, text, fun c front => ?_⟩
      · have other : c ≠ quote := by
          rintro rfl
          exact next member
        simpa using other
      · obtain rfl : quote = c := by simpa using front
        simp
    rw [inside, behind, if_pos List.head?_cons]
    rfl
  | none =>
    have absent := upTo?_eq_none.1 closed
    have front : (rest.dropWhile (· != quote)).head? ≠ some quote := by
      intro front
      exact absent ((List.dropWhile_sublist _).subset (List.mem_of_head? front))
    rw [if_neg front]
    rfl

theorem groups_between_other {quote c : Char} (other : c ≠ quote) (rest : List Char) :
    (between quote).groups (c :: rest) = [] := by
  rw [between, only, groups_follow_char, if_neg (by simpa using other)]

theorem head?_groups_run (cs : List Char) :
    (run.groups cs).head? = (bareValue? cs).map some := by
  cases cs with
  | nil => rfl
  | cons c rest =>
    cases bare : isBare c with
    | false => simp [run, groups, bareValue?, bare]
    | true =>
      obtain ⟨shorter, all, -⟩ := Template.stretches_eq isBare rest
      simp [run, groups, bareValue?, bare, all, Hit.follow]

theorem head?_groups_anyValue (cs : List Char) :
    (anyValue.groups cs).head? = (value? cs).map some := by
  rw [anyValue, groups_either, groups_either, List.head?_append, List.head?_append,
    head?_groups_run]
  cases cs with
  | nil => rfl
  | cons c rest =>
    by_cases double : c = '"'
    · subst double
      rw [groups_between_quote, groups_between_other (by decide), value?, Option.map_or]
      cases upTo? '"' rest with
      | none => rfl
      | some inner => rfl
    · rw [groups_between_other double]
      by_cases single : c = '\x27'
      · subst single
        rw [groups_between_quote, value?, Option.map_or]
        cases upTo? '\x27' rest with
        | none => rfl
        | some inner => rfl
      · rw [groups_between_other single, value?]
        · rfl
        · simpa using double
        · simpa using single

theorem hits_anyValue_blank {c : Char} (blank : Text.isBlank c = true) (rest : List Char) :
    anyValue.hits (c :: rest) = [] := by
  have none : value? (c :: rest) = none := by
    cases found : value? (c :: rest) with
    | none => rfl
    | some value =>
      have solid := (value?_eq_some.1 found).solid c rfl
      simp [blank] at solid
  have front := head?_groups_anyValue (c :: rest)
  rw [none, Option.map_none, List.head?_eq_none_iff] at front
  exact groups_eq_nil.1 front

theorem hits_separator_blank {c : Char} (blank : Text.isBlank c = true) (p : Pattern)
    (rest : List Char) :
    (follow (char (separators.contains ·)) p).hits (c :: rest) = [] := by
  have other : c ∉ separators := by
    intro separates
    have solid := isBlank_of_separates separates
    simp [blank] at solid
  simp [other]

theorem head?_groups_separated (cs : List Char) :
    (separated.groups cs).head? = ((afterSeparator? cs).bind value?).map some := by
  have behind (rest : List Char) : ((Pattern.follow blanks anyValue).groups rest).head? =
      (value? (Text.trimStart rest)).map some := by
    rw [blanks, groups_follow_many fun _ _ blank => hits_anyValue_blank blank _,
      head?_groups_anyValue]
    rfl
  have front : separated.groups cs =
      (follow (char (separators.contains ·)) (.follow blanks anyValue)).groups
        (Text.trimStart cs) :=
    groups_follow_many (fun _ _ blank => hits_separator_blank blank _ _) cs
  rw [front, afterSeparator?]
  split
  · next rest text => rw [text, groups_follow_char, if_pos (by decide), behind]; rfl
  · next rest text => rw [text, groups_follow_char, if_pos (by decide), behind]; rfl
  · next notColon notEquals =>
    cases text : Text.trimStart cs with
    | nil => rfl
    | cons c rest =>
      have other : c ∉ separators := by
        rw [mem_separators, not_or]
        exact ⟨fun same => notColon rest (by rw [text, same]),
          fun same => notEquals rest (by rw [text, same])⟩
      rw [groups_follow_char, if_neg (by simp [other])]
      rfl

theorem head?_groups_namedValue (name cs : List Char) :
    ((namedValue name).groups cs).head? =
      ((afterName? name cs).bind fun rest => (afterSeparator? rest).bind value?).map some := by
  induction name generalizing cs with
  | nil => exact head?_groups_separated cs
  | cons n name ih =>
    cases cs with
    | nil => rfl
    | cons c rest =>
      rw [namedValue, List.foldr_cons, groups_follow_char, ← namedValue, afterName?]
      by_cases same : Text.fold n = Text.fold c
      · rw [if_pos (by simpa using same), if_pos same]
        exact ih rest
      · rw [if_neg (by simpa using same), if_neg same]
        rfl

def Boundary (text : List Char) (p : Nat) : Prop :=
  isWordAt (text.take p).getLast? ≠ isWordAt (text.drop p).head?

/-- A value is in the first match of a pattern at the leftmost boundary that has a match. -/
def Finds (pattern : Pattern) (text value : List Char) : Prop :=
  ∃ p, Boundary text p ∧ (pattern.groups (text.drop p)).head? = some (some value) ∧
    ∀ q < p, Boundary text q → pattern.hits (text.drop q) = []

theorem place?_eq_some {name text value : List Char} {p : Nat} :
    place? name text p = some value ↔ Boundary text p ∧
      ((namedValue name).groups (text.drop p)).head? = some (some value) := by
  rw [head?_groups_namedValue, place?, at?, Boundary]
  split
  · next same => exact iff_of_false (Option.some_ne_none _).symm fun both => both.1 same
  · next apart =>
    rw [and_iff_right apart, Option.map_eq_some_iff]
    simp only [Option.some.injEq, exists_eq_right]

theorem place?_eq_none {name text : List Char} {p : Nat} : place? name text p = none ↔
    (Boundary text p → (namedValue name).hits (text.drop p) = []) := by
  rw [← groups_eq_nil, ← List.head?_eq_none_iff, head?_groups_namedValue, Option.map_eq_none_iff,
    place?, at?, Boundary]
  split
  · next same => exact iff_of_true rfl fun apart => absurd same apart
  · next apart => rw [forall_prop_of_true apart]

theorem first?_eq_some_iff_finds {name text value : List Char} :
    first? name none text = some value ↔ Finds (namedValue name) text value := by
  simp only [first?_eq_some, Finds, place?_eq_some, place?_eq_none, and_assoc]

theorem place?_eq_none_iff_gives {name text : List Char} {p : Nat} (nonempty : name ≠ [])
    (word : ∀ c ∈ name, Template.isNameChar c = true) :
    place? name text p = none ↔ ∀ value, ¬ Gives name text p value := by
  simp only [Option.eq_none_iff_forall_ne_some, ne_eq, place?_iff_gives nonempty word]

end Extract

theorem extractValue_eq_some {text name value : String} : extractValue text name = some value ↔
    Extract.first? name.toList none text.toList = some value.toList := by
  rw [extractValue, Option.map_eq_some_iff]
  constructor
  · rintro ⟨found, here, rfl⟩
    rw [here, String.toList_ofList]
  · intro here
    exact ⟨_, here, String.ofList_toList⟩

theorem extractValue_eq_none {text name : String} : extractValue text name = none ↔
    Extract.first? name.toList none text.toList = none := by
  rw [extractValue, Option.map_eq_none_iff]

/-- A text gives to a name what the pattern of named values matches first at the leftmost place.
For a name of ASCII characters of words that is what the grammar of named values reads at the
leftmost place, not behind such a character, where it reads one; and a text in which it reads none
gives nothing. -/
theorem extraction_leftmost (text name : String) :
    (∀ value : String, extractValue text name = some value ↔
      Extract.Finds (Extract.namedValue name.toList) text.toList value.toList) ∧
    (name ≠ "" → (∀ c ∈ name.toList, Template.isNameChar c = true) →
      (∀ value : String, extractValue text name = some value ↔
        ∃ p, Extract.Gives name.toList text.toList p value.toList ∧
          ∀ q < p, ∀ other, ¬ Extract.Gives name.toList text.toList q other) ∧
      (extractValue text name = none ↔
        ∀ p value, ¬ Extract.Gives name.toList text.toList p value)) := by
  constructor
  · intro value
    rw [extractValue_eq_some, Extract.first?_eq_some_iff_finds]
  · intro nonempty word
    have chars : name.toList ≠ [] := by simpa using nonempty
    constructor
    · intro value
      simp only [extractValue_eq_some, Extract.first?_eq_some,
        Extract.place?_iff_gives chars word, Extract.place?_eq_none_iff_gives chars word]
    · simp only [extractValue_eq_none, Extract.first?_eq_none,
        Extract.place?_eq_none_iff_gives chars word]

/-- Passed over on the way are a longer word, an occurrence without a separator and one without a
value. -/
theorem quoted_value_after_others :
    let text := "hostname: x; name, Name = ,NAME\t= 'a b'; name: c"
    "name" ≠ "" ∧ (∀ c ∈ "name".toList, Template.isNameChar c = true) ∧
      extractValue text "name" = some "a b" ∧
      ∃ p, Extract.Gives "name".toList text.toList p "a b".toList ∧
        ∀ q < p, ∀ other, ¬ Extract.Gives "name".toList text.toList q other := by
  intro text
  have found : extractValue text "name" = some "a b" := by decide +kernel
  have nonempty : "name" ≠ "" := by decide
  have word : ∀ c ∈ "name".toList, Template.isNameChar c = true := by simp [Template.isNameChar]
  have grammar := (extraction_leftmost text "name").2 nonempty word
  exact ⟨nonempty, word, found, (grammar.1 "a b").1 found⟩

end Stepwise
