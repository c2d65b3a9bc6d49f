import Mathlib.Algebra.Group.Nat.Defs
import Mathlib.Data.List.Induction
import Mathlib.Data.List.TakeWhile
import Mathlib.Data.Option.Basic
import Stepwise.Proofs.Time.Calendar
/-!
Instants and their texts. An instant of the calendar is read back from its text (`ofChars?_chars`),
and what is read from any text is an instant of the calendar (`ofChars?_inCalendar`).
-/

namespace Stepwise

open Char

namespace Decimal

theorem natOf_eq (ds : List Char) : natOf ds = Nat.ofDigitChars 10 ds 0 :=
  Nat.ofDigitChars_eq_foldl.symm

theorem natOf_concat (ds : List Char) (d : Char) :
    natOf (ds ++ [d]) = 10 * natOf ds + (d.toNat - 48) := by
  simp [natOf]

theorem natOf_lt {ds : List Char} (digits : ∀ d ∈ ds, d.isDigit = true) :
    natOf ds < 10 ^ ds.length := by
  induction ds using List.reverseRecOn with
  | nil => simp [natOf]
  | append_singleton ds d ih =>
    have before := ih fun e mem => digits e (List.mem_append_left _ mem)
    have last : d.toNat ≤ 57 := (isDigit_iff_toNat.mp (digits d (by simp))).2
    rw [natOf_concat, List.length_append, List.length_singleton, Nat.pow_succ]
    omega

end Decimal

namespace Text

theorem isBlank_of_isDigit {c : Char} (digit : c.isDigit = true) : isBlank c = false := by
  have code : 48 ≤ c.toNat ∧ c.toNat ≤ 57 := isDigit_iff_toNat.mp digit
  simp only [isBlank, blankRanges, List.any_cons, List.any_nil, Bool.or_false,
    Bool.or_eq_false_iff, Bool.and_eq_false_iff, decide_eq_false_iff_not]
  omega

end Text

namespace Timestamp

open Decimal Text

/-- An instant of the calendar. It has a full second or more in its fraction only where a minute
may have a second numbered sixty. -/
structure InCalendar (t : Timestamp) : Prop where
  earliest_le : earliest ≤ t.seconds
  le_latest : t.seconds ≤ latest
  nanos_lt : t.nanos < 1000000000 ∨ t.nanos < 2000000000 ∧ t.seconds % 60 = 59

/-! Padded numbers. -/

section Padded

variable (width n : Nat)

theorem natOf_padded : natOf (padded width n) = n := by
  simp [natOf_eq, padded, Nat.ofDigitChars_append, Nat.ofDigitChars_replicate_zero]

theorem isDigit_of_mem_padded {c : Char} (mem : c ∈ padded width n) : c.isDigit = true := by
  rcases List.mem_append.mp mem with zero | digit
  · rw [List.eq_of_mem_replicate zero]
    rfl
  · exact Nat.isDigit_of_mem_toDigits (by decide) (by decide) digit

theorem padded_ne_nil : padded width n ≠ [] := by
  simp [padded]

theorem padded_eq_cons : ∃ c ds, padded width n = c :: ds ∧ c.isDigit = true := by
  obtain ⟨c, ds, same⟩ := List.exists_cons_of_ne_nil (padded_ne_nil width n)
  exact ⟨c, ds, same, isDigit_of_mem_padded width n (same ▸ List.mem_cons_self)⟩

theorem length_padded (pos : 0 < width) (fits : n < 10 ^ width) :
    (padded width n).length = width := by
  have short := (Nat.length_toDigits_le_iff (b := 10) (by decide) pos).mpr fits
  simp only [padded, List.length_append, List.length_replicate]
  omega

theorem trimStart_padded (rest : List Char) :
    trimStart (padded width n ++ rest) = padded width n ++ rest := by
  obtain ⟨c, ds, same, digit⟩ := padded_eq_cons width n
  rw [same, List.cons_append, trimStart_of_head (isBlank_of_isDigit digit)]

end Padded

/-! Reading what is written. -/

theorem number?_append {most : Nat} {ds rest : List Char} (digits : ∀ d ∈ ds, d.isDigit = true)
    (some_digit : ds ≠ []) (fits : ds.length ≤ most)
    (ends : ds.length < most → ∀ c ∈ rest.head?, c.isDigit = false) :
    number? most (ds ++ rest) = some (natOf ds, rest) := by
  have stops : (rest.take (most - ds.length)).takeWhile Char.isDigit = [] := by
    by_cases full : ds.length = most
    · simp [full]
    · cases rest with
      | nil => simp
      | cons c rest =>
        have other := ends (Nat.lt_of_le_of_ne fits full) c (by simp)
        obtain ⟨room, more⟩ := Nat.exists_eq_succ_of_ne_zero (show most - ds.length ≠ 0 by omega)
        simp [more, other]
  rw [number?, List.take_append, List.take_of_length_le fits,
    List.takeWhile_append_of_pos digits, stops, List.append_nil]
  cases ds with
  | nil => exact absurd rfl some_digit
  | cons d ds => simp

theorem number?_padded {most width n : Nat} {rest : List Char}
    (fits : (padded width n).length ≤ most)
    (ends : (padded width n).length < most → ∀ c ∈ rest.head?, c.isDigit = false) :
    number? most (padded width n ++ rest) = some (n, rest) := by
  rw [number?_append (fun _ => isDigit_of_mem_padded width n) (padded_ne_nil width n) fits ends,
    natOf_padded]

theorem field?_padded {low high n : Nat} (least : low ≤ n) (most : n ≤ high) (two : n < 100)
    (rest : List Char) : field? low high (padded 2 n ++ rest) = some (n, rest) := by
  have length := length_padded 2 n (by decide) two
  rw [field?, trimStart_padded, number?_padded (by omega) (by omega)]
  exact if_pos ⟨least, most⟩

theorem mark?_cons {c : Char} (solid : isBlank c = false) (rest : List Char) :
    mark? c (c :: rest) = some rest := by
  rw [mark?, trimStart_of_head solid]
  exact if_pos rfl

theorem fraction?_fractionChars {n : Nat} (less : n < 1000000000) :
    fraction? (fractionChars n ++ ['Z']) = some (n, ['Z']) := by
  have written (width k : Nat) (pos : 0 < width) (nine : width ≤ 9) (fits : k < 10 ^ width) :
      fraction? ('.' :: padded width k ++ ['Z']) = some (k * 10 ^ (9 - width), ['Z']) := by
    have length := length_padded width k pos fits
    rw [List.cons_append, fraction?, number?_padded (by omega) (by simp)]
    simp [length]
  unfold fractionChars
  split
  · next zero =>
    subst zero
    rfl
  split
  · rw [written 3 _ (by decide) (by decide) (by omega)]
    simp only [Option.some.injEq, Prod.mk.injEq, and_true]
    omega
  split
  · rw [written 6 _ (by decide) (by decide) (by omega)]
    simp only [Option.some.injEq, Prod.mk.injEq, and_true]
    omega
  · rw [written 9 _ (by decide) (by decide) less]
    simp

theorem year?_padded {n : Nat} (four : n < 10000) (rest : List Char) :
    year? (padded 4 n ++ rest) = some ((n : Int), rest) := by
  have length := length_padded 4 n (by decide) four
  have read : number? 4 (padded 4 n ++ rest) = some (n, rest) :=
    number?_padded (by omega) (by omega)
  obtain ⟨c, ds, same, digit⟩ := padded_eq_cons 4 n
  rw [same, List.cons_append] at read ⊢
  unfold year?
  split
  · next dash => simp [List.cons.inj dash] at digit
  · next plus => simp [List.cons.inj plus] at digit
  · rw [read]
    rfl

theorem year?_yearChars (year : Int) (rest : List Char) :
    year? (yearChars year ++ '-' :: rest) = some (year, '-' :: rest) := by
  have read : number? (padded 4 year.natAbs ++ '-' :: rest).length
      (padded 4 year.natAbs ++ '-' :: rest) = some (year.natAbs, '-' :: rest) :=
    number?_padded (by simp) (by simp)
  unfold yearChars
  split
  · rw [year?_padded (by omega)]
    simp only [Option.some.injEq, Prod.mk.injEq, and_true]
    omega
  · split
    · simp only [List.cons_append, year?, read, Option.map_some, Option.some.injEq,
        Prod.mk.injEq, and_true]
      omega
    · simp only [List.cons_append, year?, read, Option.map_some, Option.some.injEq,
        Prod.mk.injEq, and_true]
      omega

theorem trimStart_yearChars (year : Int) (rest : List Char) :
    trimStart (yearChars year ++ rest) = yearChars year ++ rest := by
  unfold yearChars
  split
  · exact trimStart_padded 4 year.toNat rest
  · split
    · exact trimStart_of_head (by decide)
    · exact trimStart_of_head (by decide)

theorem daysInMonth_le (year month : Int) : daysInMonth year month ≤ 31 := by
  unfold daysInMonth
  split
  · split <;> decide
  · split <;> decide

def written (year : Int) (month day hour minute second nanos : Nat) : List Char :=
  yearChars year ++ '-' :: padded 2 month ++ '-' :: padded 2 day ++ 'T' :: padded 2 hour ++
    ':' :: padded 2 minute ++ ':' :: padded 2 second ++ fractionChars nanos ++ ['Z']

theorem then_reads {α β : Type} {read : Option α} {next : α → Option β} {a : α} {b : β}
    (reads : read = some a) (rest : next a = some b) : (read >>= next) = some b :=
  Option.bind_eq_some_iff.mpr ⟨a, reads, rest⟩

theorem ofChars?_written {year : Int} {month day hour minute second nanos : Nat}
    (date : IsDate year month day) (years : -262143 ≤ year ∧ year ≤ 262142)
    (hours : hour ≤ 23) (minutes : minute ≤ 59) (seconds : second ≤ 60) (less : nanos < 1000000000)
    {t : Timestamp} (within : earliest ≤ t.seconds ∧ t.seconds ≤ latest)
    (clock : daysOfDate year month day * 86400 +
      (hour * 3600 + minute * 60 + (if second = 60 then 59 else second) : Int) = t.seconds)
    (fraction : nanos + (if second = 60 then 1000000000 else 0) = t.nanos) :
    ofChars? (written year month day hour minute second nanos) = some t := by
  have short := daysInMonth_le year month
  obtain ⟨month_pos, month_le, day_pos, day_le⟩ := date
  simp only [written, List.append_assoc, List.cons_append]
  unfold ofChars?
  rw [trimStart_yearChars]
  refine then_reads (year?_yearChars year _) (then_reads (mark?_cons (by decide) _) ?_)
  refine then_reads (field?_padded (by omega) (by omega) (by omega) _) ?_
  refine then_reads (mark?_cons (by decide) _) ?_
  refine then_reads (field?_padded (by omega) (by omega) (by omega) _) ?_
  refine then_reads rfl (then_reads (field?_padded (by omega) hours (by omega) _) ?_)
  refine then_reads (mark?_cons (by decide) _) ?_
  refine then_reads (field?_padded (by omega) minutes (by omega) _) ?_
  refine then_reads (mark?_cons (by decide) _) ?_
  refine then_reads (field?_padded (by omega) seconds (by omega) _) ?_
  refine then_reads (fraction?_fractionChars less) ?_
  refine then_reads (show zone? (trimStart ['Z']) = some (0, []) by decide) (then_reads rfl ?_)
  refine then_reads (if_pos ⟨by decide, day_le, years⟩) ?_
  simp only [Int.sub_zero, clock, fraction]
  exact then_reads (if_pos within) rfl

theorem ofChars?_chars {t : Timestamp} (within : t.InCalendar) : ofChars? t.chars = some t := by
  obtain ⟨low, high, less⟩ := within
  have floor : t.seconds.fdiv 86400 = t.seconds / 86400 :=
    Int.fdiv_eq_ediv_of_nonneg _ (by decide)
  have day : IsDay (t.seconds / 86400) := by
    unfold earliest at low
    unfold latest at high
    exact ⟨by omega, by omega⟩
  generalize date : dateOfDays (t.seconds / 86400) = ymd
  obtain ⟨y, m, d⟩ := ymd
  obtain ⟨isDate, years, back⟩ := daysOfDate_dateOfDays day date
  have month : (m.toNat : Int) = m := Int.toNat_of_nonneg (by have := isDate.month_pos; omega)
  have dayOfMonth : (d.toNat : Int) = d := Int.toNat_of_nonneg (by have := isDate.day_pos; omega)
  generalize clock : (t.seconds - t.seconds / 86400 * 86400).toNat = second
  -- a second numbered sixty is written just where the fraction holds a full one
  have leap : second % 60 + t.nanos / 1000000000 = 60 ↔ 1000000000 ≤ t.nanos := by omega
  have read : ofChars? (written y m.toNat d.toNat (second / 3600) (second / 60 % 60)
      (second % 60 + t.nanos / 1000000000) (t.nanos % 1000000000)) = some t := by
    refine ofChars?_written (by rwa [month, dayOfMonth]) years (by omega) (by omega) (by omega)
      (by omega) ⟨low, high⟩ ?_ ?_
    · rw [month, dayOfMonth, back]
      split <;> omega
    · split <;> omega
  rw [← read]
  simp only [chars, floor, date, clock]
  rfl

/-! What is read from any text. -/

theorem number?_bounds {most n : Nat} {cs rest : List Char}
    (read : number? most cs = some (n, rest)) :
    n < 10 ^ (cs.length - rest.length) ∧ cs.length - rest.length ≤ most := by
  unfold number? at read
  split at read
  · cases read
  · next ds none =>
    obtain ⟨rfl, rfl⟩ := Prod.mk.inj (Option.some.inj read)
    have digits := fun d => List.mem_takeWhile_imp (l := cs.take most) (p := Char.isDigit) (x := d)
    have front := (List.takeWhile_prefix (l := cs.take most) Char.isDigit).length_le
    rw [List.length_take] at front
    rw [List.length_drop, Nat.sub_sub_self (by omega)]
    exact ⟨natOf_lt digits, by omega⟩

theorem fraction?_lt {n : Nat} {cs rest : List Char} (read : fraction? cs = some (n, rest)) :
    n < 1000000000 := by
  unfold fraction? at read
  split at read
  · next cs =>
    obtain ⟨⟨k, after⟩, number, same⟩ := Option.map_eq_some_iff.mp read
    obtain ⟨less, most⟩ := number?_bounds number
    obtain ⟨rfl, -⟩ := Prod.mk.inj same
    calc k * 10 ^ (9 - (cs.length - after.length))
      _ < 10 ^ (cs.length - after.length) * 10 ^ (9 - (cs.length - after.length)) :=
        Nat.mul_lt_mul_of_pos_right less (Nat.pow_pos (by decide))
      _ = 10 ^ 9 := by rw [← Nat.pow_add, Nat.add_sub_of_le most]
  · obtain ⟨rfl, -⟩ := Prod.mk.inj (Option.some.inj read)
    decide

theorem offset?_minutes {o : Int} {cs rest : List Char} (read : offset? cs = some (o, rest)) :
    o % 60 = 0 := by
  unfold offset? at read
  split at read
  · obtain ⟨rfl, -⟩ := Prod.mk.inj (Option.some.inj read)
    rfl
  · obtain ⟨rfl, -⟩ := Prod.mk.inj (Option.some.inj read)
    rfl
  · split at read
    · split at read
      · split at read
        · obtain ⟨rfl, -⟩ := Prod.mk.inj (Option.some.inj read)
          split <;> omega
        · cases read
      · cases read
    · cases read
  · cases read

theorem zone?_minutes {o : Int} {cs rest : List Char} (read : zone? cs = some (o, rest)) :
    o % 60 = 0 := by
  unfold zone? at read
  split at read
  · split at read
    · obtain ⟨rfl, -⟩ := Prod.mk.inj (Option.some.inj read)
      rfl
    · exact offset?_minutes read
  · exact offset?_minutes read

theorem of_reads {α β : Type} {read : Option α} {next : α → Option β} {P : β → Prop}
    (rest : ∀ a, read = some a → ∀ b, next a = some b → P b) :
    ∀ b, (read >>= next) = some b → P b := fun b found =>
  have ⟨a, reads, after⟩ := Option.bind_eq_some_iff.mp found
  rest a reads b after

theorem ofChars?_inCalendar (cs : List Char) : ∀ t, ofChars? cs = some t → t.InCalendar := by
  refine of_reads fun (year, cs) _ => of_reads fun cs _ => of_reads fun (month, cs) _ =>
    of_reads fun cs _ => of_reads fun (day, cs) _ => ?_
  dsimp -zeta only
  extract_lets timeOfDay
  have later (cs : List Char) : ∀ t, timeOfDay cs = some t → t.InCalendar := by
    refine of_reads fun (hour, cs) _ => of_reads fun cs _ => of_reads fun (minute, cs) _ =>
      of_reads fun cs _ => of_reads fun (second, cs) _ => of_reads fun (nanos, cs) fraction =>
      of_reads fun (offset, cs) zone => of_reads fun _ _ => of_reads fun _ _ =>
      of_reads fun _ within t found => ?_
    have minutes := zone?_minutes zone
    have less := fraction?_lt fraction
    obtain ⟨low, high⟩ := (Option.guard_eq_some' _).mp within
    obtain rfl := Option.some.inj found
    refine ⟨low, high, ?_⟩
    dsimp only
    split
    · exact .inr ⟨by omega, by omega⟩
    · exact .inl (by omega)
  -- whichever of its three marks comes between, the time of day is read alike
  split
  all_goals exact of_reads fun cs _ => later cs

end Timestamp

end Stepwise
