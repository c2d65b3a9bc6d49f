import Mathlib
import Stepwise.Decimal.Binary64
/-!
Rounding to binary numbers. Rounding never goes past a number that is itself binary, and yields a
number whenever such a one bounds what is rounded (`nearest_le`); whatever it yields is finite
(`nearest_finite`).
-/

namespace Stepwise

namespace Binary64

structure Fits (m : Nat) (e : Int) : Prop where
  lt : m < 2 * hiddenBit
  least : -1074 ≤ e
  greatest : e ≤ 971
  normal : hiddenBit ≤ m ∨ e = -1074

def Magnitude.value (x : Magnitude) : ℚ := x.mantissa * 2 ^ x.exponent

def value (x : Binary64) : ℚ := x.magnitude.value

theorem exponentField_eq (x : Binary64) : x.exponentField = x.bits.toNat / 2 ^ 52 % 2 ^ 11 := by
  simp only [exponentField, UInt64.toNat_and, UInt64.toNat_shiftRight, UInt64.reduceToNat,
    Nat.shiftRight_eq_div_pow]
  exact Nat.and_two_pow_sub_one_eq_mod _ 11

theorem fraction_eq (x : Binary64) : x.fraction = x.bits.toNat % 2 ^ 52 := by
  simp only [fraction, UInt64.toNat_and, UInt64.reduceToNat]
  exact Nat.and_two_pow_sub_one_eq_mod _ 52

theorem fraction_lt (x : Binary64) : x.fraction < hiddenBit := by
  rw [fraction_eq]
  exact Nat.mod_lt _ (by decide)

theorem isFinite_iff {x : Binary64} : x.isFinite = true ↔ x.exponentField ≤ 2046 := by
  have field : x.exponentField < 2 ^ 11 := by
    rw [exponentField_eq]
    exact Nat.mod_lt _ (by decide)
  simp only [isFinite, bne_iff_ne]
  omega

theorem magnitude_fits {x : Binary64} (finite : x.isFinite = true) :
    Fits x.magnitude.mantissa x.magnitude.exponent := by
  have field := isFinite_iff.1 finite
  have small := x.fraction_lt
  unfold magnitude
  split
  · exact ⟨by dsimp only; omega, by dsimp only; omega, by dsimp only; omega, .inr rfl⟩
  · exact ⟨by dsimp only; omega, by dsimp only; omega, by dsimp only; omega,
      .inl (by dsimp only; omega)⟩

theorem ofFields {field fraction : Nat} (finite : field ≤ 2046) (small : fraction < hiddenBit) :
    let x : Binary64 := ⟨(field * hiddenBit + fraction).toUInt64⟩
    x.exponentField = field ∧ x.fraction = fraction := by
  intro x
  have bits : x.bits.toNat = field * hiddenBit + fraction := by
    rw [show x.bits = UInt64.ofNat (field * hiddenBit + fraction) from rfl, UInt64.toNat_ofNat']
    refine Nat.mod_eq_of_lt ?_
    simp only [hiddenBit] at small ⊢
    omega
  rw [exponentField_eq, fraction_eq, bits]
  simp only [hiddenBit] at small ⊢
  constructor
  · omega
  · omega

theorem ofMagnitude_fits {m : Nat} {e : Int} (fits : Fits m e) :
    ∃ x, ofMagnitude m e = some x ∧ x.isFinite = true ∧ x.magnitude = ⟨m, e⟩ := by
  obtain ⟨lt, least, greatest, normal⟩ := fits
  unfold ofMagnitude
  rw [if_neg (by omega)]
  dsimp only
  split
  · next small =>
    obtain ⟨field, fraction⟩ := @ofFields 0 m (by decide) small
    rw [Nat.zero_mul, Nat.zero_add] at field fraction
    refine ⟨_, rfl, isFinite_iff.2 (by omega), ?_⟩
    have subnormal : e = -1074 := by omega
    rw [magnitude, if_pos field, fraction, subnormal]
  · next large =>
    rw [if_neg (by omega)]
    obtain ⟨field, fraction⟩ :=
      @ofFields (e + 1075).toNat (m - hiddenBit) (by omega) (by omega)
    refine ⟨_, rfl, isFinite_iff.2 (by omega), ?_⟩
    rw [magnitude, if_neg (by omega), fraction, field]
    congr 1
    · omega
    · omega

/-! A power as the two parts of a quotient. -/

theorem pow_toNat_div (b : Nat) (e : Int) :
    ((Nat.pow b e.toNat : ℕ) : ℚ) / (Nat.pow b (-e).toNat : ℕ) = (b : ℚ) ^ e := by
  obtain ⟨k, rfl | rfl⟩ := e.eq_nat_or_neg
  · simp
  · simp

theorem two_pow_toNat_div (e : Int) :
    ((Nat.pow 2 e.toNat : ℕ) : ℚ) / (Nat.pow 2 (-e).toNat : ℕ) = 2 ^ e :=
  pow_toNat_div 2 e

theorem Magnitude.ratio_pos (x : Magnitude) : 0 < x.ratio.2 := Nat.two_pow_pos _

theorem Magnitude.ratio_div (x : Magnitude) : (x.ratio.1 : ℚ) / x.ratio.2 = x.value := by
  rw [ratio, value, Nat.cast_mul, mul_div_assoc, two_pow_toNat_div]

theorem two_pow_le_div_iff {num den : Nat} (pos : 0 < den) (e : Int) :
    den * Nat.pow 2 e.toNat ≤ num * Nat.pow 2 (-e).toNat ↔ (2 : ℚ) ^ e ≤ num / den := by
  have den_pos : (0 : ℚ) < den := by exact_mod_cast pos
  have part_pos : (0 : ℚ) < (Nat.pow 2 (-e).toNat : ℕ) := by exact_mod_cast Nat.two_pow_pos _
  rw [← two_pow_toNat_div, div_le_div_iff₀ part_pos den_pos, mul_comm den]
  exact_mod_cast Iff.rfl

theorem roundHalfEven_le {num den n : Nat} (pos : 0 < den) (le : num ≤ n * den) :
    roundHalfEven num den ≤ n := by
  have parts := Nat.div_add_mod num den
  have quotient : num / den ≤ n := by
    refine (Nat.div_le_iff_le_mul_add_pred pos).2 ?_
    rw [Nat.mul_comm]
    omega
  unfold roundHalfEven
  dsimp only
  rcases Nat.eq_or_lt_of_le quotient with whole | below
  · have rest : num % den = 0 := by
      rw [whole, Nat.mul_comm] at parts
      omega
    rw [rest, whole, if_pos (by omega)]
  · split
    · omega
    · split
      · omega
      · omega

theorem le_roundHalfEven {num den n : Nat} (pos : 0 < den) (le : n * den ≤ num) :
    n ≤ roundHalfEven num den := by
  have quotient : n ≤ num / den := (Nat.le_div_iff_mul_le pos).2 le
  unfold roundHalfEven
  dsimp only
  split
  · exact quotient
  · split
    · omega
    · omega

/-- What rounding makes of a quotient: the exponent is the least one, or the mantissa has all of its
bits. -/
structure Approaches (num den : Nat) (e : Int) : Prop where
  least : -1074 ≤ e
  normal : e = -1074 ∨ (2 : ℚ) ^ (e + 52) ≤ num / den
  below : (num / den : ℚ) < 2 ^ (e + 53)

def mantissaAt (num den : Nat) (e : Int) : Nat :=
  roundHalfEven (num * Nat.pow 2 (-e).toNat) (den * Nat.pow 2 e.toNat)

theorem leadingBit_bounds {num den : Nat} (something : num ≠ 0) (pos : 0 < den) :
    let guess : Int := num.log2 - den.log2
    (2 : ℚ) ^ (guess - 1) ≤ num / den ∧ (num / den : ℚ) < 2 ^ (guess + 1) := by
  intro guess
  have den_pos : (0 : ℚ) < den := by exact_mod_cast pos
  have num_low : (2 : ℚ) ^ (num.log2 : ℤ) ≤ num := by
    exact_mod_cast Nat.log2_self_le something
  have num_high : (num : ℚ) < 2 ^ (num.log2 + 1 : ℤ) := by
    exact_mod_cast @Nat.lt_log2_self num
  have den_low : (2 : ℚ) ^ (den.log2 : ℤ) ≤ den := by
    exact_mod_cast Nat.log2_self_le pos.ne'
  have den_high : (den : ℚ) ≤ 2 ^ (den.log2 + 1 : ℤ) := by
    exact_mod_cast (@Nat.lt_log2_self den).le
  have two : (2 : ℚ) ≠ 0 := by decide
  constructor
  · rw [le_div_iff₀ den_pos]
    calc (2 : ℚ) ^ (guess - 1) * den ≤ 2 ^ (guess - 1) * 2 ^ (den.log2 + 1 : ℤ) := by gcongr
      _ = 2 ^ (num.log2 : ℤ) := by rw [← zpow_add₀ two]; congr 1; omega
      _ ≤ num := num_low
  · rw [div_lt_iff₀ den_pos]
    calc (num : ℚ) < 2 ^ (num.log2 + 1 : ℤ) := num_high
      _ = 2 ^ (guess + 1) * 2 ^ (den.log2 : ℤ) := by rw [← zpow_add₀ two]; congr 1; omega
      _ ≤ 2 ^ (guess + 1) * den := by gcongr

theorem nearest_eq {num den : Nat} (something : num ≠ 0) (pos : 0 < den) :
    ∃ e, nearest num den = ofMagnitude (mantissaAt num den e) e ∧ Approaches num den e := by
  obtain ⟨low, high⟩ := leadingBit_bounds something pos
  unfold nearest
  rw [if_neg something]
  dsimp only
  generalize (num.log2 : ℤ) - den.log2 = guess at low high
  have top : ∃ top : ℤ,
      (if den * Nat.pow 2 guess.toNat ≤ num * Nat.pow 2 (-guess).toNat then guess else guess - 1)
        = top ∧ (2 : ℚ) ^ top ≤ num / den ∧ (num / den : ℚ) < 2 ^ (top + 1) := by
    split
    · next reached => exact ⟨_, rfl, (two_pow_le_div_iff pos guess).1 reached, high⟩
    · next missed =>
      refine ⟨_, rfl, low, ?_⟩
      rw [Int.sub_add_cancel]
      exact not_le.1 fun reached => missed ((two_pow_le_div_iff pos guess).2 reached)
  obtain ⟨top, same, reached, below⟩ := top
  rw [same]
  refine ⟨_, rfl, le_max_right _ _, ?_, ?_⟩
  · rcases max_choice (top - 52) (-1074) with all | least
    · rw [all, Int.sub_add_cancel]
      exact .inr reached
    · exact .inl least
  · refine below.trans_le (zpow_le_zpow_right₀ (by decide) ?_)
    omega

theorem den_scaled_pos {den : Nat} (pos : 0 < den) (e : Int) : 0 < den * Nat.pow 2 e.toNat :=
  Nat.mul_pos pos (Nat.two_pow_pos _)

theorem scaled_div {num den : Nat} (e : Int) :
    ((num * Nat.pow 2 (-e).toNat : ℕ) : ℚ) / (den * Nat.pow 2 e.toNat : ℕ) = num / den / 2 ^ e := by
  rw [Nat.cast_mul, Nat.cast_mul, mul_div_mul_comm, ← two_pow_toNat_div, div_div_eq_mul_div,
    mul_div_assoc]

theorem mantissaAt_le {num den n : Nat} (pos : 0 < den) {e : Int}
    (le : (num / den : ℚ) ≤ n * 2 ^ e) : mantissaAt num den e ≤ n := by
  have two : (0 : ℚ) < 2 ^ e := by positivity
  have units := den_scaled_pos pos e
  have units_pos : (0 : ℚ) < (den * Nat.pow 2 e.toNat : ℕ) := by exact_mod_cast units
  rw [← div_le_iff₀ two, ← scaled_div, div_le_iff₀ units_pos] at le
  exact roundHalfEven_le units (by exact_mod_cast le)

theorem le_mantissaAt {num den n : Nat} (pos : 0 < den) {e : Int}
    (le : n * 2 ^ e ≤ (num / den : ℚ)) : n ≤ mantissaAt num den e := by
  have two : (0 : ℚ) < 2 ^ e := by positivity
  have units := den_scaled_pos pos e
  have units_pos : (0 : ℚ) < (den * Nat.pow 2 e.toNat : ℕ) := by exact_mod_cast units
  rw [← le_div_iff₀ two, ← scaled_div, le_div_iff₀ units_pos] at le
  exact le_roundHalfEven units (by exact_mod_cast le)

namespace Approaches

variable {num den : Nat} {e : Int} (approaches : Approaches num den e) (pos : 0 < den)

include approaches pos

theorem mantissa_le : mantissaAt num den e ≤ 2 * hiddenBit := by
  refine mantissaAt_le pos ?_
  have bound := approaches.below.le
  rw [zpow_add₀ (by decide), mul_comm] at bound
  exact bound.trans_eq (by norm_num [hiddenBit])

theorem mantissa_normal : hiddenBit ≤ mantissaAt num den e ∨ e = -1074 := by
  rcases approaches.normal with least | normal
  · exact .inr least
  · refine .inl (le_mantissaAt pos ?_)
    rw [zpow_add₀ (by decide), mul_comm] at normal
    exact normal.trans_eq' (by norm_num [hiddenBit])

/-- Rounding does not go past a number that is itself binary. -/
theorem rounded_le {m : Nat} {e' : Int} (fits : Fits m e')
    (le : (num / den : ℚ) ≤ m * 2 ^ e') :
    (mantissaAt num den e : ℚ) * 2 ^ e ≤ m * 2 ^ e' := by
  have two : (0 : ℚ) < 2 ^ e := by positivity
  rcases lt_or_ge e' e with finer | coarser
  · -- a quotient with all bits of its mantissa is above the numbers of lesser exponents
    have normal : (2 : ℚ) ^ (e + 52) ≤ num / den := by
      rcases approaches.normal with least | normal
      · exact absurd fits.least (by omega)
      · exact normal
    have small : (m : ℚ) < 2 ^ (53 : ℤ) := by
      have lt := fits.lt
      simp only [hiddenBit] at lt
      exact_mod_cast (show m < 2 ^ 53 by omega)
    have reached := normal.trans le
    have missed : (m : ℚ) * 2 ^ e' < 2 ^ (e + 52) := by
      calc (m : ℚ) * 2 ^ e' < 2 ^ (53 : ℤ) * 2 ^ e' := by gcongr
        _ = 2 ^ (53 + e') := by rw [← zpow_add₀ (by decide)]
        _ ≤ 2 ^ (e + 52) := zpow_le_zpow_right₀ (by decide) (by omega)
    exact absurd reached (not_le.2 missed)
  · -- the number is a whole one in the units of the quotient
    obtain ⟨k, shift⟩ := Int.eq_ofNat_of_zero_le (sub_nonneg.2 coarser)
    have same : (m : ℚ) * 2 ^ e' = (m * 2 ^ k : ℕ) * 2 ^ e := by
      rw [show e' = k + e by omega, zpow_add₀ (by decide), zpow_natCast]
      push_cast
      ring
    rw [same] at le ⊢
    have bound : mantissaAt num den e ≤ m * 2 ^ k := mantissaAt_le pos le
    gcongr

end Approaches

theorem value_nonneg (x : Binary64) : 0 ≤ x.value := by
  unfold value Magnitude.value
  positivity

theorem value_lt {x : Binary64} (finite : x.isFinite = true) : x.value < 2 ^ (1024 : ℤ) := by
  have fits := magnitude_fits finite
  have small : (x.magnitude.mantissa : ℚ) < 2 ^ (53 : ℤ) := by
    have lt := fits.lt
    simp only [hiddenBit] at lt
    exact_mod_cast (show x.magnitude.mantissa < 2 ^ 53 by omega)
  calc x.value < 2 ^ (53 : ℤ) * 2 ^ x.magnitude.exponent := by
        unfold value Magnitude.value
        gcongr
    _ = 2 ^ (53 + x.magnitude.exponent) := by rw [← zpow_add₀ (by decide)]
    _ ≤ 2 ^ (1024 : ℤ) := zpow_le_zpow_right₀ (by decide) (by have := fits.greatest; omega)

theorem ofMagnitude_carry (e : Int) :
    ofMagnitude (2 * hiddenBit) e = ofMagnitude hiddenBit (e + 1) := rfl

theorem ofMagnitude_none {m : Nat} {e : Int} (normal : hiddenBit ≤ m) (lt : m < 2 * hiddenBit)
    (beyond : 971 < e) : ofMagnitude m e = none := by
  unfold ofMagnitude
  rw [if_neg (by omega)]
  dsimp only
  rw [if_neg (by omega), if_pos beyond]

theorem two_pow_le_of_beyond {m : Nat} {e : Int} (normal : hiddenBit ≤ m) (beyond : 971 < e) :
    (2 : ℚ) ^ (1024 : ℤ) ≤ m * 2 ^ e := by
  have large : (2 : ℚ) ^ (52 : ℤ) ≤ m := by exact_mod_cast normal
  calc (2 : ℚ) ^ (1024 : ℤ) ≤ 2 ^ (52 + e) := zpow_le_zpow_right₀ (by decide) (by omega)
    _ = 2 ^ (52 : ℤ) * 2 ^ e := zpow_add₀ (by decide) 52 e
    _ ≤ m * 2 ^ e := by gcongr

/-- A rounded mantissa gives a finite number, unless that would have to be beyond all of them. -/
theorem ofMagnitude_cases {m : Nat} {e : Int} (le : m ≤ 2 * hiddenBit) (least : -1074 ≤ e)
    (normal : hiddenBit ≤ m ∨ e = -1074) :
    (∃ x, ofMagnitude m e = some x ∧ x.isFinite = true ∧ x.value = m * 2 ^ e) ∨
      ofMagnitude m e = none ∧ (2 : ℚ) ^ (1024 : ℤ) ≤ m * 2 ^ e := by
  rcases Nat.eq_or_lt_of_le le with rfl | lt
  · have same : ((2 * hiddenBit : ℕ) : ℚ) * 2 ^ e = hiddenBit * 2 ^ (e + 1) := by
      rw [zpow_add_one₀ (by decide)]
      push_cast
      ring
    rw [same, ofMagnitude_carry]
    rcases le_or_gt (e + 1) 971 with within | beyond
    · have fits : Fits hiddenBit (e + 1) :=
        ⟨by decide, by omega, within, .inl (Nat.le_refl _)⟩
      obtain ⟨x, made, finite, magnitude⟩ := ofMagnitude_fits fits
      exact .inl ⟨x, made, finite, by rw [value, magnitude, Magnitude.value]⟩
    · exact .inr ⟨ofMagnitude_none (Nat.le_refl _) (by decide) beyond,
        two_pow_le_of_beyond (Nat.le_refl _) beyond⟩
  · rcases le_or_gt e 971 with within | beyond
    · obtain ⟨x, made, finite, magnitude⟩ := ofMagnitude_fits ⟨lt, least, within, normal⟩
      exact .inl ⟨x, made, finite, by rw [value, magnitude, Magnitude.value]⟩
    · have large : hiddenBit ≤ m := normal.resolve_right (by omega)
      exact .inr ⟨ofMagnitude_none large lt beyond, two_pow_le_of_beyond large beyond⟩

theorem approaches_zero (den : Nat) : Approaches 0 den (-1074) := by
  refine ⟨Int.le_refl _, .inl rfl, ?_⟩
  rw [Nat.cast_zero, zero_div]
  positivity

theorem nearest_cases (num : Nat) {den : Nat} (pos : 0 < den) :
    ∃ e, Approaches num den e ∧
      ((∃ x, nearest num den = some x ∧ x.isFinite = true ∧
          x.value = mantissaAt num den e * 2 ^ e) ∨
        nearest num den = none ∧ (2 : ℚ) ^ (1024 : ℤ) ≤ mantissaAt num den e * 2 ^ e) := by
  by_cases nothing : num = 0
  · subst nothing
    refine ⟨-1074, approaches_zero den, .inl ⟨⟨0⟩, rfl, by decide, ?_⟩⟩
    have zero : mantissaAt 0 den (-1074) = 0 :=
      Nat.le_zero.1 (mantissaAt_le pos (by simp))
    have value : value ⟨0⟩ = 0 := by decide +kernel
    rw [zero, value, Nat.cast_zero, zero_mul]
  · obtain ⟨e, rounded, approaches⟩ := nearest_eq nothing pos
    rw [rounded]
    exact ⟨e, approaches, ofMagnitude_cases (approaches.mantissa_le pos) approaches.least
      (approaches.mantissa_normal pos)⟩

theorem nearest_finite {num den : Nat} (pos : 0 < den) {x : Binary64}
    (made : nearest num den = some x) : x.isFinite = true := by
  obtain ⟨e, -, ⟨y, same, finite, -⟩ | ⟨none, -⟩⟩ := nearest_cases num pos
  · rw [made] at same
    cases same
    exact finite
  · rw [made] at none
    exact nomatch none

theorem nearest_le {num den : Nat} (pos : 0 < den) {b : Binary64} (finite : b.isFinite = true)
    (le : (num / den : ℚ) ≤ b.value) :
    ∃ x, nearest num den = some x ∧ x.isFinite = true ∧ x.value ≤ b.value := by
  obtain ⟨e, approaches, made⟩ := nearest_cases num pos
  have bound : (mantissaAt num den e : ℚ) * 2 ^ e ≤ b.value :=
    approaches.rounded_le pos (magnitude_fits finite) le
  rcases made with ⟨x, made, xFinite, value⟩ | ⟨-, beyond⟩
  · exact ⟨x, made, xFinite, value ▸ bound⟩
  · exact absurd beyond (not_le.2 (bound.trans_lt (value_lt finite)))

theorem roundHalfEven_mono {m n den : Nat} (pos : 0 < den) (le : m ≤ n) :
    roundHalfEven m den ≤ roundHalfEven n den := by
  have mParts := Nat.div_add_mod m den
  rcases Nat.eq_or_lt_of_le (@Nat.div_le_div_right m n den le) with same | less
  · have nParts := Nat.div_add_mod n den
    rw [same] at mParts
    have rests : m % den ≤ n % den := by omega
    unfold roundHalfEven
    rw [same]
    dsimp only
    split_ifs
    all_goals omega
  · calc roundHalfEven m den ≤ m / den + 1 := by
          refine roundHalfEven_le pos ?_
          have rest := Nat.mod_lt m pos
          rw [Nat.add_one_mul, Nat.mul_comm]
          omega
      _ ≤ n / den := less
      _ ≤ roundHalfEven n den := le_roundHalfEven pos (Nat.div_mul_le_self n den)

theorem mantissaAt_mono {m n den : Nat} (pos : 0 < den) (le : m ≤ n) (e : Int) :
    mantissaAt m den e ≤ mantissaAt n den e :=
  roundHalfEven_mono (den_scaled_pos pos e) (Nat.mul_le_mul_right _ le)

theorem Approaches.rounded_mono {m n den : Nat} (pos : 0 < den) (le : m ≤ n) {e f : Int}
    (less : Approaches m den e) (more : Approaches n den f) :
    (mantissaAt m den e : ℚ) * 2 ^ e ≤ mantissaAt n den f * 2 ^ f := by
  have order : (m / den : ℚ) ≤ n / den := by gcongr
  rcases lt_trichotomy e f with finer | rfl | coarser
  · -- the mantissa of the greater one has all of its bits, in units at least twice as large
    have normal : hiddenBit ≤ mantissaAt n den f := by
      rcases more.mantissa_normal pos with normal | least
      · exact normal
      · exact absurd less.least (by omega)
    have top := less.mantissa_le pos
    calc (mantissaAt m den e : ℚ) * 2 ^ e ≤ (2 * hiddenBit : ℕ) * 2 ^ e := by gcongr
      _ = hiddenBit * 2 ^ (e + 1) := by
        rw [zpow_add_one₀ (by decide)]
        push_cast
        ring
      _ ≤ hiddenBit * 2 ^ f := by
        gcongr
        · decide
        · omega
      _ ≤ mantissaAt n den f * 2 ^ f := by gcongr
  · have mantissas := mantissaAt_mono pos le e
    gcongr
  · -- the greater one has fewer bits than its order allows
    have normal : (2 : ℚ) ^ (e + 52) ≤ m / den := by
      rcases less.normal with least | normal
      · exact absurd more.least (by omega)
      · exact normal
    have bits : (2 : ℚ) ^ (f + 53) ≤ 2 ^ (e + 52) := zpow_le_zpow_right₀ (by decide) (by omega)
    exact absurd (more.below.trans_le bits) (not_lt.2 (normal.trans order))

theorem nearest_mono {m n den : Nat} (pos : 0 < den) (le : m ≤ n) {y : Binary64}
    (made : nearest n den = some y) :
    ∃ x, nearest m den = some x ∧ x.isFinite = true ∧ x.value ≤ y.value := by
  obtain ⟨e, less, rounds⟩ := nearest_cases m pos
  obtain ⟨f, more, ⟨z, same, finite, value⟩ | ⟨none, -⟩⟩ := nearest_cases n pos
  · obtain rfl : y = z := Option.some.inj (made.symm.trans same)
    have bound := less.rounded_mono pos le more
    rw [← value] at bound
    rcases rounds with ⟨x, xMade, xFinite, xValue⟩ | ⟨-, beyond⟩
    · exact ⟨x, xMade, xFinite, xValue ▸ bound⟩
    · exact absurd beyond (not_le.2 (bound.trans_lt (value_lt finite)))
  · rw [made] at none
    exact nomatch none

/-! Products and quotients. -/

theorem mulNearest_eq (x y : Binary64) :
    mulNearest x y = nearest (x.magnitude.ratio.1 * y.magnitude.ratio.1)
      (x.magnitude.ratio.2 * y.magnitude.ratio.2) := rfl

theorem divNearest_eq (x y : Binary64) :
    divNearest x y = nearest (x.magnitude.ratio.1 * y.magnitude.ratio.2)
      (x.magnitude.ratio.2 * y.magnitude.ratio.1) := rfl

theorem value_eq (x : Binary64) : (x.magnitude.ratio.1 : ℚ) / x.magnitude.ratio.2 = x.value :=
  x.magnitude.ratio_div

theorem mulNearest_le {x y b : Binary64} (finite : b.isFinite = true)
    (le : x.value * y.value ≤ b.value) :
    ∃ z, mulNearest x y = some z ∧ z.isFinite = true ∧ z.value ≤ b.value := by
  rw [mulNearest_eq]
  refine nearest_le (Nat.mul_pos x.magnitude.ratio_pos y.magnitude.ratio_pos) finite ?_
  rwa [Nat.cast_mul, Nat.cast_mul, mul_div_mul_comm, value_eq, value_eq]

theorem mulNearest_finite {x y z : Binary64} (made : mulNearest x y = some z) :
    z.isFinite = true :=
  nearest_finite (Nat.mul_pos x.magnitude.ratio_pos y.magnitude.ratio_pos) made

theorem divNearest_le {x y : Binary64} (finite : x.isFinite = true) (large : 1 ≤ y.value) :
    ∃ z, divNearest x y = some z ∧ z.isFinite = true ∧ z.value ≤ x.value := by
  have divisor : (0 : ℚ) < y.magnitude.ratio.2 := by exact_mod_cast y.magnitude.ratio_pos
  have nonzero : 0 < y.magnitude.ratio.1 := by
    rw [← value_eq, le_div_iff₀ divisor, one_mul] at large
    exact_mod_cast divisor.trans_le large
  rw [divNearest_eq]
  refine nearest_le (Nat.mul_pos x.magnitude.ratio_pos nonzero) finite ?_
  rw [Nat.cast_mul, Nat.cast_mul, mul_div_mul_comm, value_eq,
    ← inv_div (y.magnitude.ratio.1 : ℚ), value_eq]
  exact mul_le_of_le_one_right x.value_nonneg (inv_le_one_of_one_le₀ large)

/-! Powers of ten. -/

theorem tenPow_below {m n : Nat} (le : m ≤ n) {y : Binary64}
    (made : nearest (Nat.pow 10 n) 1 = some y) :
    nearest (Nat.pow 10 m) 1 = some (tenPow m) ∧ (tenPow m).value ≤ y.value := by
  have order : Nat.pow 10 m ≤ Nat.pow 10 n := Nat.pow_le_pow_right (by decide) le
  obtain ⟨x, rounded, -, bound⟩ := nearest_mono (by decide) order made
  have same : tenPow m = x := by rw [tenPow, rounded, Option.getD_some]
  exact ⟨same ▸ rounded, same ▸ bound⟩

theorem tenPow_made {n : Nat} (small : n ≤ 308) :
    nearest (Nat.pow 10 n) 1 = some (tenPow n) := by
  -- behind a bound variable the power is computed by the kernel alone
  have greatest : ∀ k ∈ [308], (nearest (Nat.pow 10 k) 1).isSome = true := by decide +kernel
  obtain ⟨k, last⟩ : ∃ k, k ∈ [308] := ⟨308, List.mem_cons_self⟩
  obtain ⟨top, made⟩ := Option.isSome_iff_exists.1 (greatest k last)
  rw [← List.mem_singleton.1 last] at small
  exact (tenPow_below small made).1

theorem tenPow_mono {m n : Nat} (le : m ≤ n) (small : n ≤ 308) :
    (tenPow m).value ≤ (tenPow n).value :=
  (tenPow_below le (tenPow_made small)).2

theorem one_le_tenPow {n : Nat} (small : n ≤ 308) : 1 ≤ (tenPow n).value := by
  have one : 1 = (tenPow 0).value := by decide +kernel
  exact one.trans_le (tenPow_mono (Nat.zero_le n) small)

end Binary64

end Stepwise
