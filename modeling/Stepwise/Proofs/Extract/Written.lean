import Stepwise.Proofs.Extract.Pattern
/-!
A named value read back from the text that it is written to, the value in quotes. The name is at the
front, where a word may begin but none can end: only a name that begins with a character of words is
found there. No place further on gives the whole value, since what follows a separator there is
shorter than the value with its quotes.
-/

namespace Stepwise

namespace Extract

def written (name : String) (separator : Char) (value : String) : String :=
  name ++ String.singleton separator ++ " \"" ++ value ++ "\""

def behindSeparator (value : List Char) : List Char := ' ' :: '"' :: (value ++ ['"'])

theorem toList_written (name : String) (separator : Char) (value : String) :
    (written name separator value).toList =
      name.toList ++ separator :: behindSeparator value.toList := by
  simp [written, behindSeparator]

theorem names_written {name value : List Char} {separator : Char}
    (separates : separator ∈ separators) (unquoted : '"' ∉ value) :
    Names name (name ++ separator :: behindSeparator value) value :=
  @Names.gives name name [] [' '] _ value separator rfl rfl separates (by decide)
    (.quoted (by decide) unquoted)

theorem separator_inside {value front rest : List Char} {separator : Char}
    (separates : separator ∈ separators)
    (text : behindSeparator value = front ++ separator :: rest) :
    rest.length ≤ value.length ∧ rest.getLast? = some '"' := by
  have notBlank : separator ≠ ' ' := by
    rintro rfl
    exact absurd separates (by decide)
  have notQuote : separator ≠ '"' := by
    rintro rfl
    exact absurd separates (by decide)
  match front with
  | [] => exact absurd (List.cons.inj text).1.symm notBlank
  | [_] => exact absurd (List.cons.inj (List.cons.inj text).2).1.symm notQuote
  | _ :: _ :: front =>
    have inside : value ++ ['"'] = front ++ separator :: rest :=
      (List.cons.inj (List.cons.inj text).2).2
    have size := congrArg List.length inside
    have last := congrArg List.getLast? inside
    simp only [List.length_append, List.length_cons, List.length_nil] at size
    rw [List.getLast?_concat, List.getLast?_append_of_ne_nil _ (List.cons_ne_nil _ _)] at last
    refine ⟨by omega, ?_⟩
    cases rest with
    | nil => exact absurd (Option.some.inj last).symm notQuote
    | cons c rest => rw [last, List.getLast?_cons_cons]

theorem Begins.eq_of_length_le {rest value : List Char} (begins : Begins rest value)
    (short : rest.length ≤ value.length) : rest = value := by
  cases begins with
  | quoted isQuote next =>
    simp only [List.length_cons, List.length_append] at short
    omega
  | @bare _ _ rest run longest unclosed =>
    simp only [List.length_cons, List.length_append] at short
    obtain rfl : rest = [] := List.length_eq_zero_iff.1 (by omega)
    rw [List.append_nil]

theorem not_names_further {name value : List Char} {separator : Char} (unquoted : '"' ∉ value)
    (p : Nat) :
    ¬ Names name ((name ++ separator :: behindSeparator value).drop (p + 1)) value := by
  intro names
  generalize text : (name ++ separator :: behindSeparator value).drop (p + 1) = cs at names
  cases names with
  | @gives spelled blanks more rest _ inner same between separates behind begins =>
    have size : spelled.length = name.length := by simpa using congrArg List.length same
    have further : (behindSeparator value).drop p = blanks ++ inner :: (more ++ rest) := by
      have passed := congrArg (List.drop spelled.length) text
      rw [List.drop_left, List.drop_drop, size, Nat.add_comm, List.drop_length_add_append,
        List.drop_succ_cons] at passed
      exact passed
    have split : behindSeparator value =
        ((behindSeparator value).take p ++ blanks) ++ inner :: (more ++ rest) := by
      rw [List.append_assoc, ← further, List.take_append_drop]
    obtain ⟨short, last⟩ := separator_inside separates split
    have whole : rest = value :=
      begins.eq_of_length_le (by simp only [List.length_append] at short; omega)
    have nonempty : rest ≠ [] := by
      rintro rfl
      cases begins
    rw [List.getLast?_append_of_ne_nil _ nonempty, whole] at last
    exact unquoted (List.mem_of_getLast? last)

theorem boundary_written {name rest : List Char} {separator : Char}
    (separates : separator ∈ separators) :
    isWordAt (none : Option Char) ≠ isWordAt (name ++ separator :: rest).head? ↔
      isWordAt name.head? = true := by
  have apart : isWordAt (some separator) = false := by
    rcases mem_separators.1 separates with rfl | rfl
    · decide
    · decide
  cases name with
  | nil => exact iff_of_false (fun differs => differs apart.symm) Bool.false_ne_true
  | cons c name => simp [isWordAt]

end Extract

/-- A value without a double quote, written in double quotes behind a name and a separator, is read
back for just the names that begin with a character of words. -/
theorem written_value_extracted (name value : String) {separator : Char}
    (separates : separator ∈ Extract.separators) (unquoted : '"' ∉ value.toList) :
    extractValue (Extract.written name separator value) name = some value ↔
      Extract.isWordAt name.toList.head? = true := by
  rw [extractValue_eq_some, Extract.toList_written, Extract.first?_eq_some,
    ← Extract.boundary_written separates]
  constructor
  · rintro ⟨p, found, -⟩
    obtain ⟨boundary, names⟩ := Extract.at?_eq_some.1 found
    cases p with
    | zero => exact boundary
    | succ p => exact absurd names (Extract.not_names_further unquoted p)
  · intro boundary
    exact ⟨0, Extract.at?_eq_some.2 ⟨boundary, Extract.names_written separates unquoted⟩,
      fun q earlier => absurd earlier (Nat.not_lt_zero q)⟩

theorem bracketed_name_extracted :
    '=' ∈ Extract.separators ∧ '"' ∉ "a b; cpu*[0]: 1".toList ∧
      extractValue "cpu*[0]= \"a b; cpu*[0]: 1\"" "cpu*[0]" = some "a b; cpu*[0]: 1" := by
  have separates : '=' ∈ Extract.separators := by decide
  have unquoted : '"' ∉ "a b; cpu*[0]: 1".toList := by decide
  exact ⟨separates, unquoted,
    (written_value_extracted "cpu*[0]" "a b; cpu*[0]: 1" separates unquoted).2 (by decide)⟩

theorem marked_name_missed : extractValue (Extract.written "%cpu" ':' "80") "%cpu" = none := by
  decide +kernel

end Stepwise
