import Stepwise.Debugger.Inspect
import Stepwise.Proofs.Json.Written
/-!
The type that the text of a value looks like. A number looks like a number, since no number that a
text can spell is beyond the greatest binary one when it is read anew; an object or an array looks
like one however deep it is, since it begins as no number does and its text spells it again
(`infer_variableText`).
-/

namespace Stepwise

open Json (Numeral fractionPart exponentPart signPart HeldIn depthLimit)

namespace Decimal

/-! Numerals in plain notation. -/

theorem sign_of_other {c : Char} (rest : List Char) (minus : c ≠ '-') (plus : c ≠ '+') :
    sign (c :: rest) = (false, c :: rest) := by
  unfold sign
  split
  · next same => exact absurd (List.cons.inj same).1 minus
  · next same => exact absurd (List.cons.inj same).1 plus
  · rfl

theorem sign_chars {n : Numeral} (grammatical : n.Grammatical) :
    sign n.chars = (n.negative, n.magnitude) := by
  cases negative : n.negative with
  | true =>
    rw [show n.chars = '-' :: n.magnitude by simp [Numeral.chars, signPart, negative]]
    rfl
  | false =>
    obtain ⟨c, rest, text, digit⟩ := grammatical.head
    rw [show n.chars = n.magnitude by simp [Numeral.chars, signPart, negative], text]
    exact sign_of_other rest (Json.ne_of_isDigit digit rfl) (Json.ne_of_isDigit digit rfl)

theorem exponent?_exponentPart {n : Numeral} (grammatical : n.Grammatical) :
    exponent? (exponentPart n.exponent) = some n.power := by
  have digits := grammatical.exponent
  rw [Numeral.power]
  cases exponent : n.exponent with
  | none => rfl
  | some e =>
    obtain ⟨down, ds⟩ := e
    obtain ⟨something, all⟩ := digits _ exponent
    have read := digitsOf_all all
    obtain ⟨d, ds, rfl⟩ := List.exists_cons_of_ne_nil something
    cases down with
    | true => simp [exponentPart, exponent?, sign, read]
    | false => simp [exponentPart, exponent?, sign, read]

theorem magnitude?_magnitude {n : Numeral} (grammatical : n.Grammatical) :
    magnitude? n.magnitude = some (Binary64.ofDecimal (natOf (n.whole ++ n.fraction))
      (n.power - n.fraction.length)) := by
  have nothing : Json.Ends [] := fun c first => nomatch first
  have ends := Json.ends_exponentPart nothing n.exponent
  rw [List.append_nil] at ends
  have whole := digitsOf_append grammatical.whole (Json.ends_fractionPart ends n.fraction)
  have some_digit : n.whole.isEmpty = false := by simpa using grammatical.some_whole
  have exponent := exponent?_exponentPart grammatical
  have digits := grammatical.fraction
  unfold magnitude?
  rw [Numeral.magnitude, whole]
  cases part : n.fraction with
  | nil =>
    dsimp only [fractionPart, List.nil_append]
    split
    · next same => exact absurd rfl (ends '.' (by rw [same]; rfl)).2
    · simp [some_digit, exponent]
  | cons d ds =>
    rw [part] at digits
    have read := digitsOf_append digits fun c first => (ends c first).1
    rw [show fractionPart (d :: ds) ++ exponentPart n.exponent =
      '.' :: (d :: ds ++ exponentPart n.exponent) from rfl]
    dsimp only
    split
    · next same =>
      cases same
      rw [read]
      simp [some_digit, exponent]
    · next other => exact absurd rfl (other _)

end Decimal

namespace Binary64

theorem middle_le_greatest : (middle : ℚ) ≤ greatest.value := by
  have magnitude : greatest.magnitude = ⟨2 * hiddenBit - 1, 971⟩ := by decide
  have mantissas : ((2 * hiddenBit * 4 - 6 : ℕ) : ℚ) ≤ ((2 * hiddenBit - 1 : ℕ) : ℚ) * 4 := by
    exact_mod_cast (by decide : 2 * hiddenBit * 4 - 6 ≤ (2 * hiddenBit - 1) * 4)
  rw [middle_eq, value, magnitude, Magnitude.value]
  generalize 2 * hiddenBit * 4 - 6 = m at mantissas ⊢
  generalize 2 * hiddenBit - 1 = t at mantissas ⊢
  calc (m : ℚ) * 2 ^ (969 : ℤ) ≤ t * 4 * 2 ^ (969 : ℤ) :=
        mul_le_mul_of_nonneg_right mantissas (zpow_nonneg (by decide) _)
    _ = t * 2 ^ (971 : ℤ) := by
      rw [show (971 : ℤ) = 969 + 1 + 1 from rfl, zpow_add_one₀ (by decide),
        zpow_add_one₀ (by decide)]
      generalize (2 : ℚ) ^ (969 : ℤ) = power
      ring

theorem ofDecimal_finite {digits : Nat} {exponent : Int}
    (le : (⟨digits, exponent⟩ : Decimal).value ≤ middle) :
    (ofDecimal digits exponent).isFinite = true := by
  unfold ofDecimal
  dsimp only
  split
  · decide
  · next something =>
    have lead := Decimal.lead_lt (.inr fun zero => something (.inl zero)) le
    rw [Decimal.lead_eq] at lead
    dsimp only at lead
    rw [if_neg (by omega)]
    have positive : 0 < Nat.pow 10 (-exponent).toNat := Nat.pow_pos (by decide)
    have quotient : ((digits * Nat.pow 10 exponent.toNat : ℕ) : ℚ) /
        (Nat.pow 10 (-exponent).toNat : ℕ) ≤ greatest.value := by
      rw [Nat.cast_mul, mul_div_assoc, pow_toNat_div, Nat.cast_ofNat]
      exact le.trans middle_le_greatest
    obtain ⟨x, made, finite, -⟩ := nearest_le positive greatest_finite quotient
    rw [made]
    exact finite

end Binary64

/-! Numbers. -/

theorem ValueType.isNumber_chars {n : Numeral} (grammatical : n.Grammatical) : isNumber n.chars =
    (Binary64.ofDecimal (Decimal.natOf (n.whole ++ n.fraction))
      (n.power - n.fraction.length)).isFinite := by
  rw [isNumber, Decimal.sign_chars grammatical, Decimal.magnitude?_magnitude grammatical]
  rfl

theorem Number.isNumber_chars {n : Number} (sound : n.IsSound) :
    ValueType.isNumber n.chars = true := by
  rw [← n.numeral_chars]
  rcases numeral_cases sound with small | ⟨negative, greatest⟩
  · rw [ValueType.isNumber_chars n.numeral_grammatical]
    exact Binary64.ofDecimal_finite small.value
  · have made : ∀ negative, ValueType.isNumber
        (Decimal.numeral negative ⟨17976931348623157, 292⟩).chars = true := by decide +kernel
    rw [greatest, Binary64.shortest_greatest]
    exact made negative

theorem Json.Numeral.Grammatical.solid {n : Numeral} (grammatical : n.Grammatical) :
    ∀ c ∈ n.chars, Text.isBlank c = false := by
  have digits {ds : List Char} (all : ∀ c ∈ ds, c.isDigit = true) :
      ∀ c ∈ ds, Text.isBlank c = false := fun c member => Text.isBlank_of_isDigit (all c member)
  have sign : ∀ c ∈ signPart n.negative, Text.isBlank c = false := by
    cases n.negative with
    | true => exact List.forall_mem_singleton.2 rfl
    | false => exact fun c member => nomatch member
  have fraction : ∀ c ∈ fractionPart n.fraction, Text.isBlank c = false := by
    have all := digits grammatical.fraction
    cases part : n.fraction with
    | nil => simp [fractionPart]
    | cons d ds => exact List.forall_mem_cons.2 ⟨rfl, part ▸ all⟩
  have exponent : ∀ c ∈ exponentPart n.exponent, Text.isBlank c = false := by
    have all := grammatical.exponent
    cases part : n.exponent with
    | none => simp [exponentPart]
    | some e =>
      have mark : Text.isBlank (if e.1 then '-' else '+') = false := by
        cases e.1 with
        | true => rfl
        | false => rfl
      exact List.forall_mem_cons.2 ⟨rfl, List.forall_mem_cons.2 ⟨mark, digits (all e part).2⟩⟩
  exact List.forall_mem_append.2 ⟨sign, List.forall_mem_append.2
    ⟨digits grammatical.whole, List.forall_mem_append.2 ⟨fraction, exponent⟩⟩⟩

/-! Containers. -/

namespace Text

theorem trimEnd_concat {c : Char} (mark : isBlank c = false) (cs : List Char) :
    trimEnd (cs ++ [c]) = cs ++ [c] := by
  rw [trimEnd, List.reverse_append, List.reverse_singleton, List.singleton_append,
    List.dropWhile_cons, mark, if_neg Bool.false_ne_true, List.reverse_cons, List.reverse_reverse]

end Text

namespace Json

theorem compactItems_last (items : List Json) : ∃ inner, compactItems items = inner ++ [']'] := by
  induction items with
  | nil => exact ⟨[], rfl⟩
  | cons j items ih =>
    obtain ⟨inner, text⟩ := ih
    rw [compactItems_cons]
    cases items with
    | nil => exact ⟨j.compactChars, rfl⟩
    | cons k items =>
      exact ⟨j.compactChars ++ ',' :: inner, by simp [text]⟩

theorem compactMembers_last (members : List (String × Json)) :
    ∃ inner, compactMembers members = inner ++ ['\x7d'] := by
  induction members with
  | nil => exact ⟨[], rfl⟩
  | cons m members ih =>
    obtain ⟨name, j⟩ := m
    obtain ⟨inner, text⟩ := ih
    rw [compactMembers_cons]
    cases members with
    | nil => exact ⟨quoted name ++ ':' :: j.compactChars, by simp⟩
    | cons k members =>
      exact ⟨quoted name ++ ':' :: (j.compactChars ++ ',' :: inner), by simp [text]⟩

/-- The type that a value has by itself, if it is neither a text nor nothing. -/
def valueType? : Json → Option ValueType
  | obj _ => some .object
  | arr _ => some .array
  | bool _ => some .boolean
  | num _ => some .number
  | str _ | null => none

theorem variableText_of_type {j : Json} {type : ValueType} (typed : type ∈ j.valueType?) :
    j.variableText = String.ofList j.compactChars := by
  cases j with
  | null | str => exact nomatch typed
  | bool | num | arr | obj => rfl

end Json

namespace ValueType

theorem isNumber_of_other {c : Char} (rest : List Char) (digit : c.isDigit = false)
    (mark : c ≠ '-' ∧ c ≠ '+' ∧ c ≠ '.') : isNumber (c :: rest) = false := by
  obtain ⟨minus, plus, point⟩ := mark
  have whole : Decimal.digitsOf (c :: rest) = ([], c :: rest) := by simp [Decimal.digitsOf, digit]
  rw [isNumber, Decimal.sign_of_other rest minus plus]
  unfold Decimal.magnitude?
  rw [whole]
  dsimp only
  split
  · next same => exact absurd (List.cons.inj same).1 point
  · rfl

theorem infer_of_mark {c : Char} {rest : List Char}
    (trimmed : Text.trimChars (c :: rest) = c :: rest) (digit : c.isDigit = false)
    (mark : c ≠ '-' ∧ c ≠ '+' ∧ c ≠ '.') (letter : c ≠ 't' ∧ c ≠ 'f') :
    infer (String.ofList (c :: rest)) =
      match Json.ofChars? (c :: rest) with
      | some (.obj _) => object
      | some (.arr _) => array
      | _ => string := by
  have other : ¬(c :: rest = "true".toList ∨ c :: rest = "false".toList) := by
    rintro (same | same)
    · exact letter.1 (List.cons.inj same).1
    · exact letter.2 (List.cons.inj same).1
  rw [infer, String.toList_ofList, trimmed, isNumber_of_other rest digit mark]
  exact (if_neg Bool.false_ne_true).trans (if_neg other)

/-- A value that a text can spell is written in a text that looks like a value of its type. -/
theorem infer_variableText {j : Json} (held : HeldIn depthLimit j) :
    ∀ type ∈ j.valueType?, infer j.variableText = type := by
  intro type typed
  rw [Json.variableText_of_type typed]
  obtain ⟨k, value⟩ := held.value?_tree
  have spelled : Json.ofChars? j.compactChars = some k := by
    rw [Json.ofChars?, Json.ofChars?_compactChars, Option.bind_some, value]
  cases j with
  | null | str => exact nomatch typed
  | bool b =>
    cases typed
    cases b with
    | true => decide
    | false => decide
  | num n =>
    cases typed
    cases held with
    | num sound =>
      have solid := n.numeral_grammatical.solid
      rw [n.numeral_chars] at solid
      rw [Json.compactChars, infer, String.toList_ofList, Text.trimChars_of_solid solid,
        Number.isNumber_chars sound]
      rfl
  | arr items =>
    cases typed
    obtain ⟨values, -, rfl⟩ := Option.map_eq_some_iff.1 value
    obtain ⟨inner, last⟩ := Json.compactItems_last items
    rw [Json.compactChars] at spelled ⊢
    rw [infer_of_mark ?_ rfl (by decide) (by decide), spelled]
    rw [Text.trimChars_cons rfl, last, Text.trimEnd_concat rfl]
  | obj members =>
    cases typed
    obtain ⟨values, -, rfl⟩ := Option.map_eq_some_iff.1 value
    obtain ⟨inner, last⟩ := Json.compactMembers_last members
    rw [Json.compactChars] at spelled ⊢
    rw [infer_of_mark ?_ rfl (by decide) (by decide), spelled]
    rw [Text.trimChars_cons rfl, last, Text.trimEnd_concat rfl]

end ValueType

end Stepwise
