import Mathlib.Data.List.TakeWhile
import Stepwise.Extract
import Stepwise.Proofs.Template.Tokens
import Stepwise.Proofs.Text.Case
/-!
The grammar of named values, and that reading a text at a place goes by it. A value is what stands
between a quote and the next such quote, and anything else, a quote that is not closed among it, is
a run of characters that no blank, comma or semicolon interrupts. The first place that gives a value
is the one that is taken.
-/

namespace Stepwise

namespace Extract

def quotes : List Char := ['"', '\x27']

def separators : List Char := [':', '=']

theorem mem_quotes {c : Char} : c ∈ quotes ↔ c = '"' ∨ c = '\x27' := by simp [quotes]

theorem mem_separators {c : Char} : c ∈ separators ↔ c = ':' ∨ c = '=' := by simp [separators]

/-- A text has a value at its front. -/
inductive Begins : List Char → List Char → Prop
  | quoted {quote : Char} {value rest : List Char} (isQuote : quote ∈ quotes)
      (next : quote ∉ value) : Begins (quote :: (value ++ quote :: rest)) value
  | bare {c : Char} {more rest : List Char} (run : ∀ d ∈ c :: more, isBare d = true)
      (longest : ∀ d ∈ rest.head?, isBare d = false) (unclosed : c ∈ quotes → c ∉ more ++ rest) :
      Begins (c :: (more ++ rest)) (c :: more)

/-- A text has a name at its front, in any case, and behind a separator a value for it. -/
inductive Names (name : List Char) : List Char → List Char → Prop
  | gives {spelled blanks more rest value : List Char} {separator : Char}
      (same : spelled.map Text.fold = name.map Text.fold) (between : blanks.all Text.isBlank = true)
      (separates : separator ∈ separators) (behind : more.all Text.isBlank = true)
      (begins : Begins rest value) :
      Names name (spelled ++ (blanks ++ separator :: (more ++ rest))) value

theorem upTo?_eq_some {quote : Char} {cs value : List Char} :
    upTo? quote cs = some value ↔ quote ∉ value ∧ ∃ rest, cs = value ++ quote :: rest := by
  induction cs generalizing value with
  | nil => simp [upTo?]
  | cons c rest ih =>
    rw [upTo?]
    split
    · next same =>
      subst same
      cases value with
      | nil => simp
      | cons d more =>
        simp only [Option.some.injEq, List.nil_eq, reduceCtorEq, List.mem_cons, List.cons_append,
          List.cons.injEq, false_iff, not_and, not_exists]
        intro absent after front
        exact absurd (.inl front) absent
    · next other =>
      simp only [Option.map_eq_some_iff, ih]
      constructor
      · rintro ⟨value, ⟨absent, after, rfl⟩, rfl⟩
        exact ⟨by simp [absent, Ne.symm other], after, rfl⟩
      · rintro ⟨absent, after, text⟩
        cases value with
        | nil => exact absurd (List.cons.inj text).1 other
        | cons d more =>
          obtain ⟨rfl, rfl⟩ := List.cons.inj text
          exact ⟨more, ⟨fun inside => absent (.tail _ inside), after, rfl⟩, rfl⟩

theorem upTo?_eq_none {quote : Char} {cs : List Char} : upTo? quote cs = none ↔ quote ∉ cs := by
  induction cs with
  | nil => simp [upTo?]
  | cons c rest ih =>
    rw [upTo?]
    split
    · next same => simp [same]
    · next other => simp [ih, Ne.symm other]

theorem afterName?_eq_some {name cs rest : List Char} : afterName? name cs = some rest ↔
    ∃ spelled, spelled.map Text.fold = name.map Text.fold ∧ cs = spelled ++ rest := by
  induction name generalizing cs with
  | nil => simp [afterName?, eq_comm]
  | cons n name ih =>
    cases cs with
    | nil =>
      simp only [afterName?, reduceCtorEq, List.map_cons, false_iff, not_exists, not_and]
      rintro spelled same text
      rw [(List.append_eq_nil_iff.1 text.symm).1] at same
      simp at same
    | cons c cs =>
      rw [afterName?]
      split
      · next same =>
        rw [ih]
        constructor
        · rintro ⟨spelled, alike, rfl⟩
          exact ⟨c :: spelled, by simp [same, alike], rfl⟩
        · rintro ⟨spelled, alike, text⟩
          cases spelled with
          | nil => simp at alike
          | cons d spelled =>
            obtain ⟨rfl, rfl⟩ := List.cons.inj text
            exact ⟨spelled, (List.cons.inj alike).2, rfl⟩
      · next other =>
        simp only [reduceCtorEq, false_iff, not_exists, not_and]
        rintro spelled alike text
        cases spelled with
        | nil => simp at alike
        | cons d spelled =>
          obtain ⟨rfl, rfl⟩ := List.cons.inj text
          exact other (List.cons.inj alike).1.symm

theorem span_iff {allowed : Char → Bool} {cs run rest : List Char} :
    cs.takeWhile allowed = run ∧ cs.dropWhile allowed = rest ↔
      (∀ c ∈ run, allowed c = true) ∧ cs = run ++ rest ∧ ∀ c ∈ rest.head?, allowed c = false := by
  constructor
  · rintro ⟨rfl, rfl⟩
    refine ⟨fun c member => List.mem_takeWhile_imp member, List.takeWhile_append_dropWhile.symm, ?_⟩
    intro c front
    have stopped := List.head?_dropWhile_not allowed cs
    rw [Option.mem_def.1 front] at stopped
    exact stopped
  · rintro ⟨all, rfl, stopped⟩
    have stop : rest.takeWhile allowed = [] ∧ rest.dropWhile allowed = rest := by
      cases rest with
      | nil => exact ⟨rfl, rfl⟩
      | cons c rest => simp [stopped c rfl]
    rw [List.takeWhile_append_of_pos all, List.dropWhile_append_of_pos all, stop.1, stop.2,
      List.append_nil]
    exact ⟨rfl, rfl⟩

theorem trimStart_eq_iff {cs rest : List Char} : Text.trimStart cs = rest ↔
    ∃ blanks, blanks.all Text.isBlank = true ∧ cs = blanks ++ rest ∧
      ∀ c ∈ rest.head?, Text.isBlank c = false := by
  constructor
  · intro trimmed
    obtain ⟨all, text, solid⟩ := span_iff.1 ⟨rfl, trimmed⟩
    exact ⟨_, List.all_eq_true.2 all, text, solid⟩
  · rintro ⟨blanks, all, text, solid⟩
    exact (span_iff.2 ⟨List.all_eq_true.1 all, text, solid⟩).2

theorem isBlank_of_isQuote {quote : Char} (isQuote : quote ∈ quotes) :
    Text.isBlank quote = false := by
  rcases mem_quotes.1 isQuote with rfl | rfl
  · decide
  · decide

theorem isBlank_of_separates {separator : Char} (separates : separator ∈ separators) :
    Text.isBlank separator = false := by
  rcases mem_separators.1 separates with rfl | rfl
  · decide
  · decide

theorem afterSeparator?_eq_some {cs rest : List Char} : afterSeparator? cs = some rest ↔
    ∃ blanks, blanks.all Text.isBlank = true ∧ ∃ separator ∈ separators, ∃ more,
      more.all Text.isBlank = true ∧ cs = blanks ++ separator :: (more ++ rest) ∧
      ∀ c ∈ rest.head?, Text.isBlank c = false := by
  constructor
  · intro found
    unfold afterSeparator? at found
    obtain ⟨separator, separates, behind, front, trimmed⟩ : ∃ separator ∈ separators,
        ∃ behind, Text.trimStart cs = separator :: behind ∧ Text.trimStart behind = rest := by
      split at found
      · next behind front => exact ⟨':', by decide, behind, front, Option.some.inj found⟩
      · next behind front => exact ⟨'=', by decide, behind, front, Option.some.inj found⟩
      · simp at found
    obtain ⟨blanks, all, text, -⟩ := trimStart_eq_iff.1 front
    obtain ⟨more, all', text', solid⟩ := trimStart_eq_iff.1 trimmed
    exact ⟨blanks, all, separator, separates, more, all', by rw [text, text'], solid⟩
  · rintro ⟨blanks, all, separator, separates, more, all', rfl, solid⟩
    have front : Text.trimStart (blanks ++ separator :: (more ++ rest)) =
        separator :: (more ++ rest) := by
      refine trimStart_eq_iff.2 ⟨blanks, all, rfl, fun c first => ?_⟩
      obtain rfl : separator = c := by simpa using first
      exact isBlank_of_separates separates
    have trimmed : Text.trimStart (more ++ rest) = rest :=
      trimStart_eq_iff.2 ⟨more, all', rfl, solid⟩
    unfold afterSeparator?
    rw [front]
    rcases mem_separators.1 separates with rfl | rfl
    · simp only [trimmed]
    · simp only [trimmed]

theorem bareValue?_eq_some {cs value : List Char} : bareValue? cs = some value ↔
    value ≠ [] ∧ (∀ d ∈ value, isBare d = true) ∧
      ∃ rest, cs = value ++ rest ∧ ∀ d ∈ rest.head?, isBare d = false := by
  have told : bareValue? cs = some value ↔ value ≠ [] ∧ cs.takeWhile isBare = value := by
    unfold bareValue?
    split
    · next none =>
      simp only [reduceCtorEq, none, false_iff, not_and]
      intro nonempty same
      exact nonempty same.symm
    · next nonempty =>
      rw [Option.some.injEq]
      refine ⟨fun same => ⟨same ▸ nonempty, same⟩, fun both => both.2⟩
  rw [told, and_congr_right_iff]
  intro _
  constructor
  · intro same
    obtain ⟨run, text, longest⟩ := span_iff.1 ⟨same, rfl⟩
    exact ⟨run, _, text, longest⟩
  · rintro ⟨run, rest, text, longest⟩
    exact (span_iff.2 ⟨run, text, longest⟩).1

theorem begins_cons_iff {c : Char} {cs value : List Char} : Begins (c :: cs) value ↔
    (c ∈ quotes ∧ c ∉ value ∧ ∃ rest, cs = value ++ c :: rest) ∨
      (c ∈ quotes → c ∉ cs) ∧ bareValue? (c :: cs) = some value := by
  rw [bareValue?_eq_some]
  constructor
  · intro begins
    generalize text : c :: cs = front at begins
    cases begins with
    | quoted isQuote next =>
      obtain ⟨rfl, rfl⟩ := List.cons.inj text
      exact .inl ⟨isQuote, next, _, rfl⟩
    | bare run longest unclosed =>
      obtain ⟨rfl, rfl⟩ := List.cons.inj text
      exact .inr ⟨unclosed, List.cons_ne_nil _ _, run, _, rfl, longest⟩
  · rintro (⟨isQuote, next, rest, rfl⟩ | ⟨unclosed, nonempty, run, rest, text, longest⟩)
    · exact .quoted isQuote next
    · cases value with
      | nil => exact absurd rfl nonempty
      | cons d more =>
        obtain ⟨rfl, rfl⟩ := List.cons.inj text
        exact .bare run longest unclosed

theorem begins_quote {quote : Char} (isQuote : quote ∈ quotes) {rest value : List Char} :
    (upTo? quote rest).or (bareValue? (quote :: rest)) = some value ↔
      Begins (quote :: rest) value := by
  rw [begins_cons_iff]
  cases closed : upTo? quote rest with
  | some inner =>
    obtain ⟨next, after, text⟩ := upTo?_eq_some.1 closed
    have inside : quote ∈ rest := by simp [text]
    simp only [Option.some_or, Option.some.injEq, isQuote, true_and, forall_const, inside,
      not_true_eq_false, false_and, or_false]
    rw [← upTo?_eq_some, closed, Option.some.injEq]
  | none =>
    have unclosed := upTo?_eq_none.1 closed
    rw [← upTo?_eq_some, closed]
    simp [isQuote, unclosed]

theorem value?_eq_some {cs value : List Char} : value? cs = some value ↔ Begins cs value := by
  unfold value?
  split
  · exact begins_quote (by decide)
  · exact begins_quote (by decide)
  · next notDouble notSingle =>
    cases cs with
    | nil =>
      refine iff_of_false (by simp [bareValue?]) fun begins => ?_
      cases begins
    | cons c rest =>
      have unquoted : c ∉ quotes := by
        rw [mem_quotes, not_or]
        exact ⟨fun same => notDouble rest (by rw [same]), fun same => notSingle rest (by rw [same])⟩
      rw [begins_cons_iff]
      simp [unquoted]

theorem Begins.solid {cs value : List Char} (begins : Begins cs value) :
    ∀ c ∈ cs.head?, Text.isBlank c = false := by
  intro c front
  cases begins with
  | quoted isQuote next =>
    obtain rfl : _ = c := by simpa using front
    exact isBlank_of_isQuote isQuote
  | bare run longest unclosed =>
    obtain rfl : _ = c := by simpa using front
    have own := run _ List.mem_cons_self
    simp only [isBare, Bool.not_eq_true', Bool.or_eq_false_iff] at own
    exact own.1.1

theorem names_iff {name cs value : List Char} : Names name cs value ↔
    ((afterName? name cs).bind fun rest => (afterSeparator? rest).bind value?) = some value := by
  simp only [Option.bind_eq_some_iff, afterName?_eq_some, afterSeparator?_eq_some, value?_eq_some]
  constructor
  · intro names
    cases names with
    | gives same between separates behind begins =>
      exact ⟨_, ⟨_, same, rfl⟩, _, ⟨_, between, _, separates, _, behind, rfl, begins.solid⟩, begins⟩
  · rintro ⟨_, ⟨spelled, same, rfl⟩, rest, ⟨blanks, between, separator, separates, more, behind,
      rfl, -⟩, begins⟩
    exact .gives same between separates behind begins

theorem at?_eq_some {name : List Char} {before : Option Char} {cs value : List Char} :
    at? name before cs = some value ↔
      isWordAt before ≠ isWordAt cs.head? ∧ Names name cs value := by
  rw [names_iff, at?]
  split
  · next same => simp [same]
  · next boundary => simp [boundary]

def place? (name text : List Char) (p : Nat) : Option (List Char) :=
  at? name (text.take p).getLast? (text.drop p)

theorem place?_append (name before cs : List Char) (p : Nat) :
    place? name (before ++ cs) (before.length + p) =
      at? name (before ++ cs.take p).getLast? (cs.drop p) := by
  rw [place?, List.take_length_add_append, List.drop_length_add_append]

theorem first?_nil (name : List Char) (before : Option Char) :
    first? name before [] = at? name before [] := by
  rw [first?]
  split
  · next found => exact found.symm
  · next nothing => exact nothing.symm

theorem first?_cons (name : List Char) (before : Option Char) (c : Char) (rest : List Char) :
    first? name before (c :: rest) =
      (at? name before (c :: rest)).or (first? name (some c) rest) := by
  rw [first?]
  split
  · next found => rw [found, Option.some_or]
  · next nothing => rw [nothing, Option.none_or]

/-- The search goes on from the front of a text, and what is before it has been passed. -/
theorem first?_from (name before cs value : List Char) :
    first? name before.getLast? cs = some value ↔
      ∃ p, place? name (before ++ cs) (before.length + p) = some value ∧
        ∀ q < p, place? name (before ++ cs) (before.length + q) = none := by
  simp only [place?_append]
  induction cs generalizing before with
  | nil =>
    simp only [List.take_nil, List.drop_nil, List.append_nil, first?_nil]
    constructor
    · intro found
      exact ⟨0, found, fun q earlier => absurd earlier (Nat.not_lt_zero q)⟩
    · rintro ⟨p, found, -⟩
      exact found
  | cons c rest ih =>
    have next : first? name (some c) rest = some value ↔
        ∃ p, at? name (before ++ c :: rest.take p).getLast? (rest.drop p) = some value ∧
          ∀ q < p, at? name (before ++ c :: rest.take q).getLast? (rest.drop q) = none := by
      simpa using ih (before ++ [c])
    rw [first?_cons]
    cases here : at? name before.getLast? (c :: rest) with
    | some found =>
      rw [Option.some_or]
      constructor
      · intro same
        rw [same] at here
        exact ⟨0, by simpa using here, fun q earlier => absurd earlier (Nat.not_lt_zero q)⟩
      · rintro ⟨p, found', earlier⟩
        cases p with
        | zero => simpa [here] using found'
        | succ p => simpa [here] using earlier 0 (Nat.succ_pos p)
    | none =>
      rw [Option.none_or, next]
      constructor
      · rintro ⟨p, found, earlier⟩
        refine ⟨p + 1, by simpa using found, fun q before' => ?_⟩
        cases q with
        | zero => simpa using here
        | succ q => simpa using earlier q (by omega)
      · rintro ⟨p, found, earlier⟩
        cases p with
        | zero => simp [here] at found
        | succ p =>
          refine ⟨p, by simpa using found, fun q before' => ?_⟩
          simpa using earlier (q + 1) (by omega)

theorem first?_eq_some {name text value : List Char} : first? name none text = some value ↔
    ∃ p, place? name text p = some value ∧ ∀ q < p, place? name text q = none := by
  simpa using first?_from name [] text value

theorem first?_eq_none {name text : List Char} :
    first? name none text = none ↔ ∀ p, place? name text p = none := by
  constructor
  · intro nowhere p
    induction p using Nat.strongRecOn with
    | ind p ih =>
      cases here : place? name text p with
      | none => rfl
      | some value =>
        rw [first?_eq_some.2 ⟨p, here, ih⟩] at nowhere
        simp at nowhere
  · intro nowhere
    cases found : first? name none text with
    | none => rfl
    | some value =>
      obtain ⟨p, here, -⟩ := first?_eq_some.1 found
      simp [nowhere p] at here

/-- At a position of a text, not behind a character of words, a name is given a value. -/
structure Gives (name text : List Char) (p : Nat) (value : List Char) : Prop where
  apart : ∀ c ∈ (text.take p).getLast?, Text.isWord c = false
  names : Names name (text.drop p) value

theorem isWordAt_eq_false {before : Option Char} :
    isWordAt before = false ↔ ∀ c ∈ before, Text.isWord c = false := by
  cases before with
  | none => simp [isWordAt]
  | some c => simp [isWordAt]

theorem Names.isWordAt {name cs value : List Char} (names : Names name cs value)
    (nonempty : name ≠ []) (word : ∀ c ∈ name, Template.isNameChar c = true) :
    isWordAt cs.head? = true := by
  cases names with
  | @gives spelled _ _ _ _ _ same =>
    cases name with
    | nil => exact absurd rfl nonempty
    | cons n name =>
      cases spelled with
      | nil => simp at same
      | cons c spelled =>
        have inName := word n List.mem_cons_self
        have ascii : n.toNat < 0x80 := by
          have code := Template.toNat_of_isNameChar inName
          omega
        have own : Text.isWord n = true := (Text.isWord_ascii ascii).trans inName
        exact Text.isWord_of_fold ascii own (List.cons.inj same).1

theorem place?_iff_gives {name text value : List Char} {p : Nat} (nonempty : name ≠ [])
    (word : ∀ c ∈ name, Template.isNameChar c = true) :
    place? name text p = some value ↔ Gives name text p value := by
  rw [place?, at?_eq_some]
  constructor
  · rintro ⟨boundary, names⟩
    rw [names.isWordAt nonempty word, ne_eq, Bool.not_eq_true, isWordAt_eq_false] at boundary
    exact ⟨boundary, names⟩
  · rintro ⟨apart, names⟩
    refine ⟨?_, names⟩
    rw [names.isWordAt nonempty word, isWordAt_eq_false.2 apart]
    exact Bool.false_ne_true

end Extract

end Stepwise
