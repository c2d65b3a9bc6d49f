import Stepwise.Decimal.Shortest
import Stepwise.Proofs.Decimal.Rounding
/-!
Decimals and the numbers that they are read as. Digits and a power of ten are read as a finite
number or not at all (`ofScaled_finite`), and they are read if their value is not above the middle
of the two greatest numbers (`ofScaled_some`). The shortest decimal of a number is not, save for the
greatest number itself (`shortest_cases`).
-/

namespace Stepwise

namespace Binary64

def greatest : Binary64 := ⟨0x7FEFFFFFFFFFFFFF⟩

/-- The middle of the two greatest numbers. -/
def middle : Nat := (2 * hiddenBit * 4 - 6) * Nat.pow 2 969

theorem middle_eq : (middle : ℚ) = (2 * hiddenBit * 4 - 6 : ℕ) * 2 ^ (969 : ℤ) := by
  have exponent : (969 : ℤ) = (969 : ℕ) := rfl
  rw [exponent, middle]
  generalize (969 : ℕ) = n
  rw [Nat.cast_mul, Nat.pow_eq, Nat.cast_pow, Nat.cast_ofNat, zpow_natCast]

-- a power this large is compared, never computed
attribute [irreducible] middle

theorem greatest_finite : greatest.isFinite = true := by decide

/-! Reading. -/

theorem scaleDown_some (fuel : Nat) {x : Binary64} (finite : x.isFinite = true) (exponent : Nat) :
    ∃ y, scaleDown fuel x exponent = some y ∧ y.isFinite = true := by
  induction fuel generalizing x exponent with
  | zero => exact ⟨x, rfl, finite⟩
  | succ fuel ih =>
    unfold scaleDown
    split
    · next small =>
      obtain ⟨y, made, yFinite, -⟩ := divNearest_le finite (one_le_tenPow small)
      exact ⟨y, made, yFinite⟩
    · split
      · exact ⟨x, rfl, finite⟩
      · obtain ⟨y, made, yFinite, -⟩ := divNearest_le finite (one_le_tenPow (Nat.le_refl 308))
        rw [made, Option.bind_some]
        exact ih yFinite (exponent - 308)

theorem ofScaled_finite {significand : Nat} {exponent : Int} {x : Binary64}
    (made : ofScaled significand exponent = some x) : x.isFinite = true := by
  obtain ⟨y, rounded, scaled⟩ := Option.bind_eq_some_iff.1 made
  have finite : y.isFinite = true := nearest_finite (by decide) rounded
  split at scaled
  · obtain ⟨z, same, zFinite⟩ := scaleDown_some 4 finite (-exponent).toNat
    rw [scaled] at same
    cases same
    exact zFinite
  · split at scaled
    · exact mulNearest_finite scaled
    · split at scaled
      · cases scaled
        exact finite
      · exact nomatch scaled

/-- The greatest significand of 64 bits that is scaled to nothing above the middle. -/
def most (n : Nat) : Nat := min (middle / Nat.pow 10 n) (UInt64.size - 1)

/-- Whether such a significand, rounded, and the rounded power of ten have a product that is not
above the greatest number. -/
def reaches (n : Nat) : Bool :=
  (nearest (most n) 1).any fun x =>
    let (a, b) := x.magnitude.ratio
    let (c, d) := (tenPow n).magnitude.ratio
    let (num, den) := greatest.magnitude.ratio
    a * c * den ≤ num * (b * d)

-- 288 is the greatest exponent at which no significand of 64 bits is scaled beyond the middle
theorem reaches_all : ∀ k < 21, reaches (288 + k) = true := by decide +kernel

theorem most_288 : most 288 = UInt64.size - 1 := by decide +kernel

theorem exists_of_reaches {n : Nat} (reached : reaches n = true) :
    ∃ x, nearest (most n) 1 = some x ∧ x.value * (tenPow n).value ≤ greatest.value := by
  unfold reaches at reached
  cases made : nearest (most n) 1 with
  | none =>
    rw [made] at reached
    exact nomatch reached
  | some x =>
  rw [made, Option.any_some, decide_eq_true_eq] at reached
  refine ⟨x, rfl, ?_⟩
  have first : (0 : ℚ) < x.magnitude.ratio.2 := by exact_mod_cast x.magnitude.ratio_pos
  have second : (0 : ℚ) < (tenPow n).magnitude.ratio.2 := by
    exact_mod_cast (tenPow n).magnitude.ratio_pos
  have third : (0 : ℚ) < greatest.magnitude.ratio.2 := by
    exact_mod_cast greatest.magnitude.ratio_pos
  rw [← value_eq x, ← value_eq (tenPow n), ← value_eq greatest, div_mul_div_comm,
    div_le_div_iff₀ (mul_pos first second) third]
  exact_mod_cast reached

theorem middle_lt {n : Nat} (large : 309 ≤ n) : middle < 10 ^ n := by
  have least : ∀ k ∈ [309], middle < Nat.pow 10 k := by decide +kernel
  obtain ⟨k, first⟩ : ∃ k, k ∈ [309] := ⟨309, List.mem_cons_self⟩
  rw [← List.mem_singleton.1 first] at large
  exact (least k first).trans_le (Nat.pow_le_pow_right (by decide) large)

theorem le_most {significand n : Nat} (small : significand < UInt64.size)
    (le : significand * 10 ^ n ≤ middle) : significand ≤ most (max n 288) := by
  rcases le_total n 288 with low | high
  · rw [max_eq_right low, most_288]
    omega
  · rw [max_eq_left high, most, Nat.le_min]
    exact ⟨(Nat.le_div_iff_mul_le (Nat.pow_pos (by decide))).2 le, by omega⟩

theorem mulNearest_tenPow {significand n : Nat} (within : n ≤ 308)
    (small : significand < UInt64.size) (le : significand * 10 ^ n ≤ middle) {y : Binary64}
    (rounded : nearest significand 1 = some y) :
    ∃ z, mulNearest y (tenPow n) = some z ∧ z.isFinite = true := by
  have table : reaches (max n 288) = true := by
    have row := reaches_all (max n 288 - 288) (by omega)
    rwa [Nat.add_sub_cancel' (le_max_right n 288)] at row
  obtain ⟨x, made, bound⟩ := exists_of_reaches table
  obtain ⟨own, same, -, below⟩ := nearest_mono (by decide) (le_most small le) made
  obtain rfl : y = own := Option.some.inj (rounded.symm.trans same)
  have powers := tenPow_mono (le_max_left n 288) (show max n 288 ≤ 308 by omega)
  have product : y.value * (tenPow n).value ≤ greatest.value :=
    (mul_le_mul below powers (value_nonneg _) (value_nonneg _)).trans bound
  obtain ⟨z, result, finite, -⟩ := mulNearest_le greatest_finite product
  exact ⟨z, result, finite⟩

theorem ofScaled_some {significand : Nat} {exponent : Int} (small : significand < UInt64.size)
    (le : (significand : ℚ) * 10 ^ exponent ≤ middle) :
    ∃ x, ofScaled significand exponent = some x := by
  obtain ⟨last, made, -⟩ := exists_of_reaches (reaches_all 0 (by decide))
  have top : significand ≤ most 288 := by
    rw [most_288]
    omega
  obtain ⟨y, rounded, finite, -⟩ := nearest_mono (by decide) top made
  unfold ofScaled
  rw [rounded, Option.bind_some]
  split
  · obtain ⟨z, scaled, -⟩ := scaleDown_some 4 finite (-exponent).toNat
    exact ⟨z, scaled⟩
  · next nonneg =>
    obtain ⟨n, rfl⟩ := Int.eq_ofNat_of_zero_le (not_lt.1 nonneg)
    have exact_le : significand * 10 ^ n ≤ middle := by exact_mod_cast le
    split
    · next within =>
      obtain ⟨z, scaled, -⟩ := mulNearest_tenPow (by omega) small exact_le rounded
      exact ⟨z, scaled⟩
    · next beyond =>
      obtain rfl : significand = 0 := by
        by_contra something
        have whole : 10 ^ n ≤ significand * 10 ^ n :=
          Nat.le_mul_of_pos_left _ (Nat.pos_of_ne_zero something)
        have above : middle < 10 ^ n := middle_lt (by omega)
        omega
      cases rounded
      exact ⟨_, rfl⟩

end Binary64

namespace Decimal

def value (d : Decimal) : ℚ := d.digits * 10 ^ d.exponent

theorem reduce_value (d : Decimal) : d.reduce.value = d.value := by
  induction d using reduce.induct with
  | case1 d zeros ih =>
    rw [reduce, dif_pos zeros, ih]
    have whole : (d.digits : ℚ) = (d.digits / 10 : ℕ) * 10 := by
      exact_mod_cast (show d.digits = d.digits / 10 * 10 by omega)
    rw [value, value, whole, zpow_add_one₀ (by decide)]
    ring
  | case2 d other => rw [reduce, dif_neg other]

theorem reduce_digits {d : Decimal} (something : d.digits ≠ 0) : d.reduce.digits ≠ 0 := by
  induction d using reduce.induct with
  | case1 d zeros ih =>
    rw [reduce, dif_pos zeros]
    exact ih (by dsimp only; omega)
  | case2 d other => rwa [reduce, dif_neg other]

end Decimal

namespace Binary64

/-! Writing. -/

theorem onGrid?_contains {x : Binary64} {grid : Int} {c : Nat} (found : x.onGrid? grid = some c) :
    let q := x.magnitude.exponent - 2
    x.interval.contains (c * (Nat.pow 2 (-q).toNat * Nat.pow 10 grid.toNat))
      (Nat.pow 2 q.toNat * Nat.pow 10 (-grid).toNat) = true := by
  intro q
  unfold onGrid? at found
  dsimp only at found
  split at found
  · exact nomatch found
  · next below _ =>
    cases found
    exact below
  · next _ above =>
    cases found
    exact above
  · next below above =>
    split at found
    · cases found
      exact below
    · split at found
      · cases found
        exact above
      · cases found
        split
        · exact below
        · exact above

theorem Interval.contains_bounds {i : Interval} {scaled unit : Nat}
    (inside : i.contains scaled unit = true) : i.low * unit ≤ scaled ∧ scaled ≤ i.high * unit := by
  unfold contains at inside
  split at inside
  · simpa using inside
  · simp only [Bool.and_eq_true, decide_eq_true_eq] at inside
    exact ⟨inside.1.le, inside.2.le⟩

theorem mantissa_pos {x : Binary64} (something : x.isZero = false) :
    0 < x.magnitude.mantissa := by
  unfold magnitude
  split
  · next subnormal =>
    simp only [isZero, subnormal, beq_self_eq_true, Bool.true_and, beq_eq_false_iff_ne] at something
    exact Nat.pos_of_ne_zero something
  · exact Nat.add_pos_right _ (by decide)

theorem onGrid?_ne_zero {x : Binary64} (something : x.isZero = false) {grid : Int} {c : Nat}
    (found : x.onGrid? grid = some c) : c ≠ 0 := by
  rintro rfl
  have bounds := (Interval.contains_bounds (onGrid?_contains found)).1
  have unit : 0 < Nat.pow 2 (x.magnitude.exponent - 2).toNat * Nat.pow 10 (-grid).toNat :=
    Nat.mul_pos (Nat.two_pow_pos _) (Nat.pow_pos (by decide))
  have low : 0 < x.interval.low := by
    have mantissa := mantissa_pos something
    unfold interval
    dsimp only
    split
    · omega
    · omega
  have positive := Nat.mul_pos low unit
  omega

theorem onGrid?_le {x : Binary64} {grid : Int} {c : Nat} (found : x.onGrid? grid = some c) :
    (c : ℚ) * 10 ^ grid ≤ (4 * x.magnitude.mantissa + 2 : ℕ) * 2 ^ (x.magnitude.exponent - 2) := by
  have bounds := (Interval.contains_bounds (onGrid?_contains found)).2
  generalize x.magnitude.exponent - 2 = q at bounds ⊢
  have tens : (0 : ℚ) < (Nat.pow 10 (-grid).toNat : ℕ) := by
    exact_mod_cast Nat.pow_pos (by decide)
  have twos : (0 : ℚ) < (Nat.pow 2 (-q).toNat : ℕ) := by exact_mod_cast Nat.two_pow_pos _
  have ten := pow_toNat_div 10 grid
  rw [Nat.cast_ofNat] at ten
  rw [← ten, ← two_pow_toNat_div q, ← mul_div_assoc, ← mul_div_assoc,
    div_le_div_iff₀ tens twos]
  have whole : c * Nat.pow 10 grid.toNat * Nat.pow 2 (-q).toNat ≤
      (4 * x.magnitude.mantissa + 2) * Nat.pow 2 q.toNat * Nat.pow 10 (-grid).toNat := by
    rw [Nat.mul_assoc, Nat.mul_comm (Nat.pow 10 _), Nat.mul_assoc]
    exact bounds
  exact_mod_cast whole

theorem shortest_found (x : Binary64) :
    x.shortest = ⟨0, 0⟩ ∨
      ∃ grid c, x.onGrid? grid = some c ∧ x.shortest = Decimal.reduce ⟨c, grid⟩ := by
  unfold shortest
  dsimp only
  split
  · next d found =>
    obtain ⟨grid, -, point⟩ := List.exists_of_findSome?_eq_some found
    obtain ⟨c, onGrid, rfl⟩ := Option.map_eq_some_iff.1 point
    exact .inr ⟨grid, c, onGrid, rfl⟩
  · exact .inl rfl

theorem shortest_digits {x : Binary64} (something : x.isZero = false) :
    x.shortest = ⟨0, 0⟩ ∨ x.shortest.digits ≠ 0 := by
  rcases x.shortest_found with none | ⟨grid, c, onGrid, shortest⟩
  · exact .inl none
  · rw [shortest]
    exact .inr (Decimal.reduce_digits (onGrid?_ne_zero something onGrid))

theorem shortest_le (x : Binary64) :
    x.shortest.value ≤ (4 * x.magnitude.mantissa + 2 : ℕ) * 2 ^ (x.magnitude.exponent - 2) := by
  rcases x.shortest_found with none | ⟨grid, c, onGrid, shortest⟩
  · rw [none, Decimal.value, Nat.cast_zero, zero_mul]
    positivity
  · rw [shortest, Decimal.reduce_value]
    exact onGrid?_le onGrid

theorem Fits.le_middle {m : Nat} {e : Int} (fits : Fits m e)
    (less : ¬(m = 2 * hiddenBit - 1 ∧ e = 971)) :
    ((4 * m + 2 : ℕ) : ℚ) * 2 ^ (e - 2) ≤ middle := by
  have lt := fits.lt
  have greatest := fits.greatest
  have mantissa : 4 * m + 2 ≤ 2 * (2 * hiddenBit * 4 - 6) ∧
      (e = 971 → 4 * m + 2 ≤ 2 * hiddenBit * 4 - 6) := by
    simp only [hiddenBit] at lt less ⊢
    omega
  rw [middle_eq]
  generalize 2 * hiddenBit * 4 - 6 = t at mantissa ⊢
  obtain ⟨twice, once⟩ := mantissa
  by_cases last : e = 971
  · have le : ((4 * m + 2 : ℕ) : ℚ) ≤ t := by exact_mod_cast once last
    rw [show e - 2 = 969 by omega]
    exact mul_le_mul_of_nonneg_right le (zpow_nonneg (by decide) _)
  · have le : ((4 * m + 2 : ℕ) : ℚ) ≤ 2 * t := by exact_mod_cast twice
    calc ((4 * m + 2 : ℕ) : ℚ) * 2 ^ (e - 2) ≤ 2 * t * 2 ^ (968 : ℤ) :=
          mul_le_mul le (zpow_le_zpow_right₀ (by decide) (by omega))
            (zpow_nonneg (by decide) _) (by positivity)
      _ = t * 2 ^ (969 : ℤ) := by
        rw [show (969 : ℤ) = 968 + 1 from rfl, zpow_add_one₀ (by decide)]
        generalize (2 : ℚ) ^ (968 : ℤ) = power
        ring

theorem shortest_congr {x y : Binary64} (field : x.exponentField = y.exponentField)
    (magnitude : x.magnitude = y.magnitude) : x.shortest = y.shortest := by
  have interval : x.interval = y.interval := by
    rw [Binary64.interval, magnitude, field, Binary64.interval]
  simp only [shortest, onGrid?, magnitude, interval]

theorem shortest_greatest : greatest.shortest = ⟨17976931348623157, 292⟩ := by
  have lead : leadingExponent greatest.magnitude.ratio.1 greatest.magnitude.ratio.2 = 308 := by
    decide +kernel
  have found : ((List.range 17).map fun (n : Nat) => 308 - (n : Int)).findSome?
      (fun g => (greatest.onGrid? g).map fun c => (⟨c, g⟩ : Decimal)) =
        some ⟨17976931348623157, 292⟩ := by decide +kernel
  unfold shortest
  dsimp only
  rw [lead, found]
  dsimp only
  rw [Decimal.reduce, dif_neg (by decide)]

theorem exponentField_of_exponent {x : Binary64} (last : x.magnitude.exponent = 971) :
    x.exponentField = 2046 := by
  unfold magnitude at last
  split at last
  · dsimp only at last
    omega
  · dsimp only at last
    omega

/-- The shortest decimal of a number is not above the middle of the two greatest numbers, or it is
that of the greatest. -/
theorem shortest_cases {x : Binary64} (finite : x.isFinite = true) :
    x.shortest.value ≤ middle ∨ x.shortest = greatest.shortest := by
  by_cases last : x.magnitude.mantissa = 2 * hiddenBit - 1 ∧ x.magnitude.exponent = 971
  · refine .inr ?_
    have field : x.exponentField = greatest.exponentField := exponentField_of_exponent last.2
    have magnitude : x.magnitude = greatest.magnitude := by
      rw [show greatest.magnitude = ⟨2 * hiddenBit - 1, 971⟩ by decide, ← last.1, ← last.2]
    exact shortest_congr field magnitude
  · exact .inl (x.shortest_le.trans ((magnitude_fits finite).le_middle last))

end Binary64

end Stepwise
