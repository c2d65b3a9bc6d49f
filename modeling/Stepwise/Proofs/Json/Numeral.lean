import Stepwise.Json.Printer
import Stepwise.Json.Reader
import Stepwise.Proofs.Decimal.Scaled
import Stepwise.Proofs.Time.Text
/-!
Numbers and how they are written. A number is written as a numeral that is read as it stands
(`readNumeral_chars`). A number that a text can spell is written as a numeral that spells a number
(`number?_numeral`), however it was spelled itself: reading rounds twice and may miss the number
that is written, but it does not get beyond the greatest one.
-/

namespace Stepwise

namespace Decimal

theorem digitsOf_append {ds rest : List Char} (digits : ∀ c ∈ ds, c.isDigit = true)
    (ends : ∀ c ∈ rest.head?, c.isDigit = false) : digitsOf (ds ++ rest) = (ds, rest) := by
  rw [digitsOf, List.takeWhile_append_of_pos digits, List.dropWhile_append_of_pos digits]
  cases rest with
  | nil => simp
  | cons c rest =>
    have other := ends c rfl
    simp [other]

theorem digitsOf_all {ds : List Char} (digits : ∀ c ∈ ds, c.isDigit = true) :
    digitsOf ds = (ds, []) := by
  simpa using @digitsOf_append ds [] digits (by simp)

theorem natOf_append (ds es : List Char) :
    natOf (ds ++ es) = es.foldl (fun n c => 10 * n + (c.toNat - 48)) (natOf ds) :=
  List.foldl_append

theorem natOf_toDigits (n : Nat) : natOf (Nat.toDigits 10 n) = n := by
  rw [natOf_eq, Nat.ofDigitChars_toDigits (by decide) (by decide)]

theorem natOf_zeros (ds : List Char) (k : Nat) : natOf (ds ++ zeros k) = 10 ^ k * natOf ds := by
  rw [natOf_eq, natOf_eq, Nat.ofDigitChars_append, zeros, Nat.ofDigitChars_replicate_zero]

theorem natOf_zeros_append (k : Nat) (ds : List Char) : natOf (zeros k ++ ds) = natOf ds := by
  rw [natOf_eq, natOf_eq, Nat.ofDigitChars_append, zeros, Nat.ofDigitChars_replicate_zero,
    Nat.mul_zero]

theorem isDigit_toDigits {n : Nat} : ∀ c ∈ Nat.toDigits 10 n, c.isDigit = true :=
  fun _ member => Nat.isDigit_of_mem_toDigits (by decide) (by decide) member

theorem isDigit_zeros {k : Nat} : ∀ c ∈ zeros k, c.isDigit = true := by
  intro c member
  rw [List.eq_of_mem_replicate member]
  rfl

theorem length_zeros (k : Nat) : (zeros k).length = k := List.length_replicate

theorem pow_le_of_toDigits {n : Nat} (something : n ≠ 0) :
    10 ^ ((Nat.toDigits 10 n).length - 1) ≤ n := by
  rcases Nat.eq_zero_or_pos ((Nat.toDigits 10 n).length - 1) with single | more
  · rw [single]
    omega
  · exact Nat.le_of_not_lt fun less =>
      absurd ((Nat.length_toDigits_le_iff (b := 10) (by decide) more).2 less) (by omega)

theorem toDigits_leading {n : Nat} {rest : List Char} (digits : Nat.toDigits 10 n = '0' :: rest) :
    rest = [] := by
  by_contra more
  have length := List.length_pos_iff.2 more
  have all : ∀ c ∈ rest, c.isDigit = true := fun c member =>
    isDigit_toDigits c (digits ▸ List.mem_cons_of_mem _ member)
  have below := natOf_lt all
  have value : natOf rest = n := by
    rw [← natOf_toDigits n, digits]
    exact (natOf_zeros_append 1 rest).symm
  have something : n ≠ 0 := by
    rintro rfl
    cases digits
    exact more rfl
  have above := pow_le_of_toDigits something
  rw [digits, List.length_cons, Nat.add_sub_cancel] at above
  omega

theorem toDigits_something {n : Nat} (something : n ≠ 0) (rest : List Char) :
    Nat.toDigits 10 n ≠ '0' :: rest := by
  intro digits
  obtain rfl := toDigits_leading digits
  have value := natOf_toDigits n
  rw [digits] at value
  exact something value.symm

theorem toDigits_cons (n : Nat) : ∃ c ds, Nat.toDigits 10 n = c :: ds ∧ c.isDigit = true ∧
    (n ≠ 0 → c ≠ '0') := by
  obtain ⟨c, ds, written⟩ :=
    List.exists_cons_of_ne_nil (Nat.toDigits_ne_nil : Nat.toDigits 10 n ≠ [])
  refine ⟨c, ds, written, isDigit_toDigits c (written ▸ List.mem_cons_self), ?_⟩
  rintro something rfl
  exact toDigits_something something ds written

theorem natOf_lt_size {ds : List Char} (digits : ∀ c ∈ ds, c.isDigit = true)
    (few : ds.length ≤ 16) : natOf ds < UInt64.size :=
  calc natOf ds < 10 ^ ds.length := natOf_lt digits
    _ ≤ 10 ^ 16 := Nat.pow_le_pow_right (by decide) few
    _ ≤ UInt64.size := by decide

end Decimal

open Decimal

namespace Json

/-! Reading a numeral back. -/

structure Numeral.Grammatical (n : Numeral) : Prop where
  whole : ∀ c ∈ n.whole, c.isDigit = true
  some_whole : n.whole ≠ []
  leading : ∀ rest, n.whole = '0' :: rest → rest = []
  fraction : ∀ c ∈ n.fraction, c.isDigit = true
  exponent : ∀ e ∈ n.exponent, e.2 ≠ [] ∧ ∀ c ∈ e.2, c.isDigit = true

def Ends (rest : List Char) : Prop :=
  ∀ c ∈ rest.head?, c.isDigit = false ∧ c ≠ '.' ∧ c ≠ 'e' ∧ c ≠ 'E'

def fractionPart : List Char → List Char
  | [] => []
  | ds => '.' :: ds

def exponentPart : Option (Bool × List Char) → List Char
  | none => []
  | some (down, ds) => 'e' :: (if down then '-' else '+') :: ds

def signPart (negative : Bool) : List Char := if negative then ['-'] else []

namespace Numeral

def magnitude (n : Numeral) : List Char :=
  n.whole ++ (fractionPart n.fraction ++ exponentPart n.exponent)

def chars (n : Numeral) : List Char := signPart n.negative ++ n.magnitude

end Numeral

theorem ends_exponentPart {rest : List Char} (ends : Ends rest)
    (e : Option (Bool × List Char)) :
    ∀ c ∈ (exponentPart e ++ rest).head?, c.isDigit = false ∧ c ≠ '.' := by
  cases e with
  | none => exact fun c first => ⟨(ends c first).1, (ends c first).2.1⟩
  | some e =>
    intro c first
    cases first
    decide

theorem ends_fractionPart {more : List Char}
    (ends : ∀ c ∈ more.head?, c.isDigit = false ∧ c ≠ '.') (ds : List Char) :
    ∀ c ∈ (fractionPart ds ++ more).head?, c.isDigit = false := by
  cases ds with
  | nil => exact fun c first => (ends c first).1
  | cons d ds =>
    intro c first
    cases first
    decide

theorem readExponent_append {e : Option (Bool × List Char)} {rest : List Char}
    (digits : ∀ p ∈ e, p.2 ≠ [] ∧ ∀ c ∈ p.2, c.isDigit = true) (ends : Ends rest) :
    readExponent (exponentPart e ++ rest) = some (e, rest) := by
  cases e with
  | none =>
    cases rest with
    | nil => rfl
    | cons c rest =>
      have other := (ends c rfl).2.2
      simp [exponentPart, readExponent, other]
  | some e =>
    obtain ⟨down, ds⟩ := e
    obtain ⟨something, all⟩ := digits _ rfl
    have read := digitsOf_append all fun c first => (ends c first).1
    obtain ⟨d, ds, rfl⟩ := List.exists_cons_of_ne_nil something
    rw [List.cons_append] at read
    cases down with
    | true => simp [exponentPart, readExponent, read]
    | false => simp [exponentPart, readExponent, read]

theorem readFraction_append {ds more : List Char} (digits : ∀ c ∈ ds, c.isDigit = true)
    (ends : ∀ c ∈ more.head?, c.isDigit = false ∧ c ≠ '.') :
    readFraction (fractionPart ds ++ more) = some (ds, more) := by
  cases ds with
  | nil =>
    rw [fractionPart, List.nil_append]
    unfold readFraction
    split
    · exact absurd rfl (ends '.' rfl).2
    · rfl
  | cons d ds =>
    rw [fractionPart.eq_2 _ (by simp), List.cons_append, readFraction,
      digitsOf_append digits fun c first => (ends c first).1]

theorem readWhole_append {ds more : List Char} (digits : ∀ c ∈ ds, c.isDigit = true)
    (something : ds ≠ []) (leading : ∀ rest, ds = '0' :: rest → rest = [])
    (ends : ∀ c ∈ more.head?, c.isDigit = false) : readWhole (ds ++ more) = some (ds, more) := by
  rw [readWhole, digitsOf_append digits ends]
  split
  · next none => exact absurd (congrArg Prod.fst none) something
  · next zero => exact nomatch leading _ (congrArg Prod.fst zero)
  · rfl

namespace Numeral

theorem Grammatical.head {n : Numeral} (grammatical : n.Grammatical) :
    ∃ c rest, n.magnitude = c :: rest ∧ c.isDigit = true := by
  obtain ⟨c, rest, whole⟩ := List.exists_cons_of_ne_nil grammatical.some_whole
  refine ⟨c, rest ++ (fractionPart n.fraction ++ exponentPart n.exponent), ?_,
    grammatical.whole c (whole ▸ List.mem_cons_self)⟩
  rw [magnitude, whole, List.cons_append]

theorem readNumeral_chars {n : Numeral} (grammatical : n.Grammatical) {rest : List Char}
    (ends : Ends rest) : readNumeral (n.chars ++ rest) = some (n, rest) := by
  have exponent := readExponent_append grammatical.exponent ends
  have ends := ends_exponentPart ends n.exponent
  have fraction := readFraction_append grammatical.fraction ends
  have whole := readWhole_append grammatical.whole grammatical.some_whole grammatical.leading
    (ends_fractionPart ends n.fraction)
  unfold readNumeral
  cases negative : n.negative with
  | true =>
    rw [show n.chars ++ rest = '-' :: (n.magnitude ++ rest) by simp [chars, signPart, negative]]
    simp only [magnitude, List.append_assoc, whole, fraction, exponent, Option.bind_eq_bind,
      Option.bind_some, Option.pure_def, ← negative]
  | false =>
    rw [show n.chars = n.magnitude by simp [chars, signPart, negative]]
    obtain ⟨c, more, text, digit⟩ := grammatical.head
    dsimp only
    split
    · next minus =>
      rw [text, List.cons_append] at minus
      rw [(List.cons.inj minus).1] at digit
      exact absurd digit (by decide)
    · simp only [magnitude, List.append_assoc, whole, fraction, exponent, Option.bind_eq_bind,
        Option.bind_some, Option.pure_def, ← negative]

end Numeral

/-! What a numeral spells. -/

theorem le_foldl_digits (n : Nat) (ds : List Char) :
    n * 10 ^ ds.length ≤ ds.foldl (fun n c => 10 * n + (c.toNat - 48)) n := by
  induction ds generalizing n with
  | nil => simp
  | cons c ds ih =>
    calc n * 10 ^ (ds.length + 1) = 10 * n * 10 ^ ds.length := by ring
      _ ≤ (10 * n + (c.toNat - 48)) * 10 ^ ds.length :=
        Nat.mul_le_mul_right _ (Nat.le_add_right _ _)
      _ ≤ _ := ih _

theorem significand_le (n : Nat) (ds : List Char) (small : n < UInt64.size) :
    (significand n ds).1 < UInt64.size ∧ (significand n ds).2.length ≤ ds.length ∧
      (significand n ds).1 * 10 ^ (significand n ds).2.length ≤
        ds.foldl (fun n c => 10 * n + (c.toNat - 48)) n := by
  induction ds generalizing n with
  | nil => exact ⟨small, Nat.le_refl _, by simp [significand]⟩
  | cons c ds ih =>
    rw [significand]
    split
    · next fits =>
      obtain ⟨kept, shorter, le⟩ := ih _ fits
      exact ⟨kept, shorter.trans (Nat.le_succ _), le⟩
    · exact ⟨small, Nat.le_refl _, le_foldl_digits n (c :: ds)⟩

theorem significand_fits {n : Nat} {ds : List Char}
    (fits : ds.foldl (fun n c => 10 * n + (c.toNat - 48)) n < UInt64.size) :
    significand n ds = (ds.foldl (fun n c => 10 * n + (c.toNat - 48)) n, []) := by
  induction ds generalizing n with
  | nil => rfl
  | cons c ds ih =>
    have least := le_foldl_digits (10 * n + (c.toNat - 48)) ds
    have next : 10 * n + (c.toNat - 48) < UInt64.size :=
      ((Nat.le_mul_of_pos_right _ (Nat.pow_pos (by decide))).trans least).trans_lt fits
    rw [significand, if_pos next, ih fits, List.foldl_cons]

namespace Numeral

def power (n : Numeral) : Int :=
  match n.exponent with
  | none => 0
  | some (down, ds) => if down then -(natOf ds : Int) else natOf ds

def value (n : Numeral) : ℚ :=
  natOf (n.whole ++ n.fraction) * 10 ^ (n.power - n.fraction.length)

/-- A numeral with few digits before its point, whose value is not above the middle of the two
greatest binary numbers. -/
structure Small (n : Numeral) : Prop where
  whole : natOf n.whole < UInt64.size
  value : n.value ≤ Binary64.middle
  power : n.power < 2 ^ 31

theorem Small.scaled {n : Numeral} (small : n.Small) :
    n.scaled.1 < UInt64.size ∧
      (n.scaled.1 : ℚ) * 10 ^ (n.scaled.2 + n.power) ≤ Binary64.middle := by
  obtain ⟨kept, shorter, le⟩ := significand_le _ n.fraction small.whole
  rw [← natOf_append] at le
  have scaled : n.scaled = ((significand (natOf n.whole) n.fraction).1,
      -((n.fraction.length - (significand (natOf n.whole) n.fraction).2.length : Nat) : Int)) := by
    rw [Numeral.scaled, significand_fits small.whole]
    rfl
  rw [scaled]
  generalize significand (natOf n.whole) n.fraction = found at kept shorter le
  obtain ⟨digits, dropped⟩ := found
  refine ⟨kept, ?_⟩
  dsimp only at shorter le ⊢
  have all : (digits * 10 ^ dropped.length : ℚ) ≤ natOf (n.whole ++ n.fraction) := by
    exact_mod_cast le
  calc (digits : ℚ) * 10 ^ (-((n.fraction.length - dropped.length : Nat) : Int) + n.power)
      = digits * 10 ^ dropped.length * 10 ^ (n.power - n.fraction.length) := by
        rw [mul_assoc, ← zpow_natCast, ← zpow_add₀ (by decide)]
        congr 2
        omega
    _ ≤ natOf (n.whole ++ n.fraction) * 10 ^ (n.power - n.fraction.length) := by gcongr
    _ ≤ Binary64.middle := small.value

theorem Small.float? {n : Numeral} (small : n.Small) : ∃ x, n.float? = some x := by
  obtain ⟨kept, le⟩ := small.scaled
  have power := small.power
  unfold Numeral.float?
  rw [Numeral.power] at le power
  dsimp only
  split
  · next none =>
    rw [none, add_zero] at le
    obtain ⟨x, made⟩ := Binary64.ofScaled_some kept le
    exact ⟨_, by rw [made, Option.map_some]⟩
  · next down ds some =>
    rw [some] at le power
    split
    · next large =>
      cases down with
      | true => exact ⟨_, if_neg (by simp)⟩
      | false =>
        -- an exponent that does not fit 32 bits is more than a small numeral has
        simp only [Bool.false_eq_true, if_false, Nat.pow_eq] at power large
        omega
    · obtain ⟨x, made⟩ := Binary64.ofScaled_some kept le
      refine ⟨signed n.negative x, ?_⟩
      rw [← Option.map_some, ← made]
      cases down with
      | true => rfl
      | false => rfl

end Numeral

end Json

open Json

/-! The numeral of a number. -/

namespace Decimal

def lead (d : Decimal) : Int := d.exponent + (Nat.toDigits 10 d.digits).length - 1

/-- A decimal that is zero has no power of ten besides. -/
def IsNormal (d : Decimal) : Prop := d = ⟨0, 0⟩ ∨ d.digits ≠ 0

def numeral (negative : Bool) (d : Decimal) : Numeral :=
  let ds := Nat.toDigits 10 d.digits
  if Number.format.leastPositional ≤ d.lead ∧ d.lead ≤ Number.format.greatestPositional then
    if 0 ≤ d.exponent then ⟨negative, ds ++ zeros d.exponent.toNat, ['0'], none⟩
    else if 0 ≤ d.lead then
      ⟨negative, ds.take (d.lead + 1).toNat, ds.drop (d.lead + 1).toNat, none⟩
    else ⟨negative, ['0'], zeros (-d.lead - 1).toNat ++ ds, none⟩
  else ⟨negative, ds.take 1, ds.drop 1, some (d.lead < 0, Nat.toDigits 10 d.lead.natAbs)⟩

theorem chars_eq (d : Decimal) : d.chars Number.format =
    let ds := Nat.toDigits 10 d.digits
    if -5 ≤ d.lead ∧ d.lead ≤ 15 then
      if 0 ≤ d.exponent then ds ++ zeros d.exponent.toNat ++ ['.', '0']
      else if 0 ≤ d.lead then ds.take (d.lead + 1).toNat ++ '.' :: ds.drop (d.lead + 1).toNat
      else '0' :: '.' :: zeros (-d.lead - 1).toNat ++ ds
    else
      let exponent := (if d.lead < 0 then '-' else '+') :: Nat.toDigits 10 d.lead.natAbs
      match ds with
      | [] => []
      | [c] => c :: 'e' :: exponent
      | c :: rest => c :: '.' :: rest ++ 'e' :: exponent := rfl

structure Writes (d : Decimal) (n : Numeral) : Prop where
  chars : n.magnitude = d.chars Number.format
  grammatical : n.Grammatical
  value : n.value = d.value
  whole : natOf n.whole < UInt64.size
  power : n.power ≤ max 0 d.lead

theorem lead_eq (d : Decimal) : d.lead = d.exponent + (Nat.toDigits 10 d.digits).length - 1 := rfl

section

variable {d : Decimal} (negative : Bool)

theorem writes_whole (normal : d.IsNormal) (within : d.lead ≤ 15) (whole : 0 ≤ d.exponent) :
    d.Writes ⟨negative, Nat.toDigits 10 d.digits ++ zeros d.exponent.toNat, ['0'], none⟩ := by
  have lead := d.lead_eq
  obtain ⟨c, ds, written, digit, front⟩ := toDigits_cons d.digits
  have digits : ∀ c ∈ Nat.toDigits 10 d.digits ++ zeros d.exponent.toNat, c.isDigit = true :=
    List.forall_mem_append.2 ⟨isDigit_toDigits, isDigit_zeros⟩
  rw [written, List.length_cons] at lead
  refine ⟨?chars, ⟨digits, by simp, ?leading, by simp, by simp⟩, ?value, ?whole, le_max_left 0 _⟩
  case chars =>
    rw [chars_eq, if_pos (by omega), if_pos whole]
    rfl
  case leading =>
    intro rest zero
    rcases normal with rfl | something
    · cases zero
      rfl
    · dsimp only at zero
      rw [written, List.cons_append] at zero
      exact absurd (List.cons.inj zero).1 (front something)
  case value =>
    rw [Numeral.value, Decimal.value, natOf_concat, natOf_zeros, natOf_toDigits]
    obtain ⟨k, exponent⟩ := Int.eq_ofNat_of_zero_le whole
    rw [exponent]
    simp only [Numeral.power, Int.toNat_natCast, List.length_singleton, Nat.cast_one, zero_sub,
      zpow_natCast, zpow_neg, zpow_one]
    push_cast
    ring
  case whole =>
    refine natOf_lt_size digits ?_
    rw [List.length_append, written, List.length_cons, length_zeros]
    omega

theorem writes_pointed (something : d.digits ≠ 0) (within : d.lead ≤ 15) (fraction : d.exponent < 0)
    (pointed : 0 ≤ d.lead) :
    d.Writes ⟨negative, (Nat.toDigits 10 d.digits).take (d.lead + 1).toNat,
      (Nat.toDigits 10 d.digits).drop (d.lead + 1).toNat, none⟩ := by
  have lead := d.lead_eq
  have digits := @isDigit_toDigits d.digits
  have taken : ∀ c ∈ (Nat.toDigits 10 d.digits).take (d.lead + 1).toNat, c.isDigit = true :=
    fun c member => digits c (List.mem_of_mem_take member)
  have dropped : ∀ c ∈ (Nat.toDigits 10 d.digits).drop (d.lead + 1).toNat, c.isDigit = true :=
    fun c member => digits c (List.mem_of_mem_drop member)
  refine ⟨?chars, ⟨taken, ?some_whole, ?leading, dropped, by simp⟩, ?value, ?whole,
    le_max_left 0 _⟩
  case chars =>
    obtain ⟨c, ds, rest⟩ : ∃ c ds, (Nat.toDigits 10 d.digits).drop (d.lead + 1).toNat = c :: ds :=
      List.exists_cons_of_length_pos (by rw [List.length_drop]; omega)
    rw [chars_eq, if_pos (by omega), if_neg (by omega), if_pos pointed, Numeral.magnitude, rest,
      fractionPart.eq_2 _ (by simp), exponentPart, List.append_nil]
  case some_whole =>
    refine List.ne_nil_of_length_pos ?_
    rw [List.length_take]
    omega
  case leading =>
    intro rest zero
    obtain ⟨c, ds, written, -, front⟩ := toDigits_cons d.digits
    obtain ⟨k, places⟩ := Nat.exists_eq_succ_of_ne_zero (show (d.lead + 1).toNat ≠ 0 by omega)
    dsimp only at zero
    rw [written, places, List.take_succ_cons] at zero
    exact absurd (List.cons.inj zero).1 (front something)
  case value =>
    rw [Numeral.value, Decimal.value, List.take_append_drop, natOf_toDigits, List.length_drop]
    simp only [Numeral.power]
    congr 2
    omega
  case whole =>
    refine natOf_lt_size taken ?_
    rw [List.length_take]
    omega

theorem writes_fraction (within : -5 ≤ d.lead) (fraction : d.lead < 0) : d.Writes
    ⟨negative, ['0'], zeros (-d.lead - 1).toNat ++ Nat.toDigits 10 d.digits, none⟩ := by
  have lead := d.lead_eq
  have digits : ∀ c ∈ zeros (-d.lead - 1).toNat ++ Nat.toDigits 10 d.digits, c.isDigit = true :=
    List.forall_mem_append.2 ⟨isDigit_zeros, isDigit_toDigits⟩
  have some_digit := @Nat.length_toDigits_pos 10 d.digits
  refine ⟨?chars, ⟨by simp, by simp, by simp, digits, by simp⟩, ?value,
    natOf_lt_size (by simp) (by simp), le_max_left 0 _⟩
  case chars =>
    obtain ⟨c, ds, part⟩ := List.exists_cons_of_ne_nil
      (show zeros (-d.lead - 1).toNat ++ Nat.toDigits 10 d.digits ≠ [] by simp)
    rw [chars_eq, if_pos (by omega), if_neg (by omega), if_neg (by omega), Numeral.magnitude]
    dsimp only [List.cons_append, List.nil_append]
    rw [part, fractionPart.eq_2 _ (by simp), exponentPart, List.append_nil]
  case value =>
    rw [Numeral.value, Decimal.value, show ['0'] = zeros 1 from rfl, natOf_zeros_append,
      natOf_zeros_append, natOf_toDigits, List.length_append, length_zeros]
    simp only [Numeral.power]
    congr 2
    omega

theorem writes_scientific (outside : ¬(-5 ≤ d.lead ∧ d.lead ≤ 15)) : d.Writes
    ⟨negative, (Nat.toDigits 10 d.digits).take 1, (Nat.toDigits 10 d.digits).drop 1,
      some (d.lead < 0, Nat.toDigits 10 d.lead.natAbs)⟩ := by
  have lead := d.lead_eq
  have digits := @isDigit_toDigits d.digits
  have power : Numeral.power ⟨negative, (Nat.toDigits 10 d.digits).take 1,
      (Nat.toDigits 10 d.digits).drop 1, some (d.lead < 0, Nat.toDigits 10 d.lead.natAbs)⟩ =
        d.lead := by
    simp only [Numeral.power, natOf_toDigits, decide_eq_true_eq]
    split
    · omega
    · omega
  have taken : ∀ c ∈ (Nat.toDigits 10 d.digits).take 1, c.isDigit = true :=
    fun c member => digits c (List.mem_of_mem_take member)
  have dropped : ∀ c ∈ (Nat.toDigits 10 d.digits).drop 1, c.isDigit = true :=
    fun c member => digits c (List.mem_of_mem_drop member)
  obtain ⟨c, ds, written, -⟩ := toDigits_cons d.digits
  refine ⟨?chars, ⟨taken, by simp [written], ?leading, dropped, ?exponent⟩, ?value,
    natOf_lt_size taken ?few, ?power⟩
  case chars =>
    rw [chars_eq, if_neg outside]
    dsimp only
    rw [written]
    cases ds with
    | nil => simp [Numeral.magnitude, fractionPart, exponentPart]
    | cons e ds => simp [Numeral.magnitude, fractionPart, exponentPart]
  case leading =>
    intro rest zero
    dsimp only at zero
    rw [written] at zero
    exact (List.cons.inj zero).2.symm
  case exponent =>
    rintro e ⟨⟩
    exact ⟨Nat.toDigits_ne_nil, isDigit_toDigits⟩
  case value =>
    have some_digit := @Nat.length_toDigits_pos 10 d.digits
    rw [Numeral.value, Decimal.value, power, List.take_append_drop, natOf_toDigits,
      List.length_drop]
    congr 2
    omega
  case few =>
    rw [List.length_take]
    omega
  case power =>
    rw [power]
    exact le_max_right 0 _

theorem writes_numeral (normal : d.IsNormal) : d.Writes (d.numeral negative) := by
  unfold numeral
  dsimp only
  split
  · next within =>
    split
    · next whole => exact writes_whole negative normal within.2 whole
    · next fraction =>
      have something : d.digits ≠ 0 := by
        rcases normal with rfl | something
        · exact absurd (Int.le_refl 0) fraction
        · exact something
      split
      · next pointed => exact writes_pointed negative something within.2 (not_le.1 fraction) pointed
      · next below => exact writes_fraction negative within.1 (not_le.1 below)
  · next outside => exact writes_scientific negative outside

theorem pow_lead_le (something : d.digits ≠ 0) : (10 : ℚ) ^ d.lead ≤ d.value := by
  have digits : (10 : ℚ) ^ ((Nat.toDigits 10 d.digits).length - 1) ≤ d.digits := by
    exact_mod_cast pow_le_of_toDigits something
  have some_digit := @Nat.length_toDigits_pos 10 d.digits
  calc (10 : ℚ) ^ d.lead
      = 10 ^ ((Nat.toDigits 10 d.digits).length - 1) * 10 ^ d.exponent := by
        rw [← zpow_natCast, ← zpow_add₀ (by decide), lead_eq]
        congr 1
        omega
    _ ≤ d.value := by
        unfold Decimal.value
        gcongr

theorem lead_lt (normal : d.IsNormal) (le : d.value ≤ Binary64.middle) : d.lead < 309 := by
  rcases normal with rfl | something
  · decide
  · by_contra large
    obtain ⟨n, power⟩ := Int.eq_ofNat_of_zero_le (show 0 ≤ d.lead by omega)
    have beyond : (Binary64.middle : ℚ) < 10 ^ d.lead := by
      rw [power, zpow_natCast]
      exact_mod_cast Binary64.middle_lt (show 309 ≤ n by omega)
    exact absurd ((pow_lead_le something).trans le) (not_le.2 beyond)

theorem Writes.small {n : Numeral} (writes : d.Writes n) (normal : d.IsNormal)
    (le : d.value ≤ Binary64.middle) : n.Small := by
  have lead := lead_lt normal le
  have power := writes.power
  exact ⟨writes.whole, writes.value ▸ le, by omega⟩

end

end Decimal

namespace Binary64

def decimal (x : Binary64) : Decimal := if x.isZero then ⟨0, 0⟩ else x.shortest

theorem chars_decimal (x : Binary64) :
    x.chars Number.format = signPart x.isNegative ++ x.decimal.chars Number.format := by
  have zero : Decimal.chars Number.format ⟨0, 0⟩ = ['0', '.', '0'] := by decide
  rw [Binary64.chars, decimal, signPart]
  by_cases nothing : x.isZero = true
  · rw [if_pos nothing, if_pos nothing, zero]
  · rw [if_neg nothing, if_neg nothing]

theorem decimal_normal (x : Binary64) : x.decimal.IsNormal := by
  unfold decimal
  split
  · exact .inl rfl
  · next something => exact shortest_digits (Bool.eq_false_iff.2 something)

theorem decimal_cases {x : Binary64} (finite : x.isFinite = true) :
    x.decimal.value ≤ middle ∨ x.decimal = greatest.shortest := by
  unfold decimal
  split
  · refine .inl ?_
    rw [Decimal.value, Nat.cast_zero, zero_mul]
    exact Nat.cast_nonneg _
  · exact shortest_cases finite

theorem neg_finite {x : Binary64} (finite : x.isFinite = true) : x.neg.isFinite = true := by
  have field : x.neg.exponentField = x.exponentField := by
    have flipped : x.neg.bits.toNat = x.bits.toNat ^^^ 2 ^ 63 := UInt64.toNat_xor _ _
    rw [exponentField_eq, exponentField_eq, flipped, Nat.xor_div_two_pow, Nat.xor_mod_two_pow]
    exact Nat.xor_zero _
  rwa [isFinite, field]

theorem signed_finite {negative : Bool} {x : Binary64} (finite : x.isFinite = true) :
    (Numeral.signed negative x).isFinite = true := by
  cases negative with
  | true => exact neg_finite finite
  | false => exact finite

end Binary64

namespace Number

/-- What a text can spell: an integer of 64 bits, signed or not, or a finite binary number. -/
def IsSound : Number → Prop
  | int i => -Nat.pow 2 63 ≤ i ∧ i < UInt64.size
  | float x => x.isFinite = true

def numeral : Number → Numeral
  | int i => ⟨i < 0, Nat.toDigits 10 i.natAbs, [], none⟩
  | float x => x.decimal.numeral x.isNegative

theorem numeral_chars (n : Number) : n.numeral.chars = n.chars := by
  cases n with
  | int i =>
    simp only [numeral, Number.chars, intChars, Numeral.chars, Numeral.magnitude, signPart,
      fractionPart, exponentPart, List.append_nil, decide_eq_true_eq]
    split
    · rfl
    · rfl
  | float x =>
    have writes := Decimal.writes_numeral x.isNegative x.decimal_normal
    have negative : (x.decimal.numeral x.isNegative).negative = x.isNegative := by
      unfold Decimal.numeral
      dsimp only
      split_ifs
      all_goals rfl
    rw [Number.chars, Binary64.chars_decimal, ← writes.chars, Numeral.chars, numeral, negative]

theorem numeral_grammatical (n : Number) : n.numeral.Grammatical := by
  cases n with
  | int i =>
    exact ⟨isDigit_toDigits, Nat.toDigits_ne_nil, fun rest => toDigits_leading, by simp [numeral],
      by simp [numeral]⟩
  | float x => exact (Decimal.writes_numeral x.isNegative x.decimal_normal).grammatical

theorem numeral_small_int {i : Int} (sound : (int i).IsSound) : (int i).numeral.Small := by
  have fits : i.natAbs < UInt64.size := by
    obtain ⟨least, greatest⟩ := sound
    simp only [Nat.pow_eq, UInt64.size] at least greatest ⊢
    omega
  refine ⟨?_, ?_, by simp [numeral, Numeral.power]⟩
  · rwa [numeral, natOf_toDigits]
  · have least : UInt64.size ≤ Binary64.middle := by decide +kernel
    rw [Numeral.value, numeral, List.append_nil, natOf_toDigits]
    simp only [Numeral.power, List.length_nil, Nat.cast_zero, sub_zero, zpow_zero, mul_one]
    exact_mod_cast fits.le.trans least

theorem numeral_cases {n : Number} (sound : n.IsSound) :
    n.numeral.Small ∨ ∃ negative, n.numeral = Binary64.greatest.shortest.numeral negative := by
  cases n with
  | int i => exact .inl (numeral_small_int sound)
  | float x =>
    rcases Binary64.decimal_cases sound with le | greatest
    · have writes := Decimal.writes_numeral x.isNegative x.decimal_normal
      exact .inl (writes.small x.decimal_normal le)
    · exact .inr ⟨x.isNegative, by rw [numeral, greatest]⟩

end Number

namespace Json.Numeral

theorem Small.number? {n : Numeral} (small : n.Small) : ∃ m, n.number? = some m := by
  obtain ⟨x, read⟩ := small.float?
  have float : n.float?.map Number.float = some (.float x) := by rw [read, Option.map_some]
  unfold Numeral.number?
  dsimp only
  rw [float]
  split_ifs
  all_goals exact ⟨_, rfl⟩

theorem float?_finite {n : Numeral} {x : Binary64} (read : n.float? = some x) :
    x.isFinite = true := by
  have scaled {digits : Nat} {exponent : Int}
      (read : (Binary64.ofScaled digits exponent).map (signed n.negative) = some x) :
      x.isFinite = true := by
    obtain ⟨y, made, rfl⟩ := Option.map_eq_some_iff.1 read
    exact Binary64.signed_finite (Binary64.ofScaled_finite made)
  unfold Numeral.float? at read
  dsimp only at read
  split at read
  · exact scaled read
  · split at read
    · split at read
      · exact nomatch read
      · cases read
        exact Binary64.signed_finite (by decide)
    · exact scaled read

theorem number?_sound {n : Numeral} {m : Number} (read : n.number? = some m) : m.IsSound := by
  have float (read : n.float?.map Number.float = some m) : m.IsSound := by
    obtain ⟨x, made, rfl⟩ := Option.map_eq_some_iff.1 read
    exact float?_finite made
  unfold Numeral.number? at read
  dsimp only at read
  split at read
  · split at read
    · split at read
      · next fits =>
        cases read
        simp only [Number.IsSound, Nat.pow_eq, UInt64.size] at fits ⊢
        omega
      · exact float read
    · split at read
      · next fits =>
        cases read
        simp only [Number.IsSound, Nat.pow_eq, UInt64.size] at fits ⊢
        omega
      · exact float read
  · exact float read

end Json.Numeral

theorem Number.number?_numeral {n : Number} (sound : n.IsSound) :
    ∃ m, n.numeral.number? = some m := by
  rcases numeral_cases sound with small | ⟨negative, greatest⟩
  · exact small.number?
  · -- the greatest number is above the middle, but there is only one text of it for each sign
    have made : ∀ negative, (Decimal.numeral negative ⟨17976931348623157, 292⟩).number?.isSome =
        true := by decide +kernel
    rw [greatest, Binary64.shortest_greatest]
    exact Option.isSome_iff_exists.1 (made negative)

end Stepwise
