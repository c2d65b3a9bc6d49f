import Stepwise.Decimal.Digits
import Stepwise.Text.Blank
/-!
Instants of universal time, written as dates and times of day with an offset. A second numbered
sixty is kept as the last one of its minute with a fraction of a full second or more.
-/

namespace Stepwise

structure Timestamp where
  seconds : Int
  nanos : Nat
  deriving DecidableEq, Repr

namespace Timestamp

instance : LT Timestamp :=
  ⟨fun a b => a.seconds < b.seconds ∨ a.seconds = b.seconds ∧ a.nanos < b.nanos⟩

instance (a b : Timestamp) : Decidable (a < b) :=
  inferInstanceAs (Decidable (a.seconds < b.seconds ∨ a.seconds = b.seconds ∧ a.nanos < b.nanos))

theorem lt_iff {a b : Timestamp} :
    a < b ↔ a.seconds < b.seconds ∨ a.seconds = b.seconds ∧ a.nanos < b.nanos := Iff.rfl

theorem lt_irrefl (a : Timestamp) : ¬a < a := by
  rw [lt_iff]
  omega

theorem lt_trans {a b c : Timestamp} (less : a < b) (more : b < c) : a < c := by
  rw [lt_iff] at *
  omega

theorem lt_trichotomy (a b : Timestamp) : a < b ∨ a = b ∨ b < a := by
  rw [lt_iff, lt_iff, Timestamp.mk.injEq]
  omega

/-- The days from 1970 to a date; years begin in March, so that a leap day ends one. -/
def daysOfDate (year month day : Int) : Int :=
  let y := if month ≤ 2 then year - 1 else year
  let era := y.fdiv 400
  let yearOfEra := y - era * 400
  let dayOfYear := (153 * ((month + 9) % 12) + 2) / 5 + day - 1
  era * 146097 + yearOfEra * 365 + yearOfEra / 4 - yearOfEra / 100 + dayOfYear - 719468

def dateOfDays (days : Int) : Int × Int × Int :=
  let z := days + 719468
  let era := z.fdiv 146097
  let doe := z - era * 146097
  let yoe := (doe - doe / 1460 + doe / 36524 - doe / 146096) / 365
  let doy := doe - (365 * yoe + yoe / 4 - yoe / 100)
  let mp := (5 * doy + 2) / 153
  let month := if mp < 10 then mp + 3 else mp - 9
  (yoe + era * 400 + (if month ≤ 2 then 1 else 0), month, doy - (153 * mp + 2) / 5 + 1)

def isLeap (year : Int) : Bool := year % 4 == 0 && (year % 100 != 0 || year % 400 == 0)

def daysInMonth (year month : Int) : Int :=
  if month = 2 then (if isLeap year then 29 else 28)
  else if month = 4 ∨ month = 6 ∨ month = 9 ∨ month = 11 then 30 else 31

def earliest : Int := daysOfDate (-262143) 1 1 * 86400

def latest : Int := daysOfDate 262142 12 31 * 86400 + 86399

def minus? (t : Timestamp) (seconds : Nat) : Option Timestamp :=
  if earliest ≤ t.seconds - seconds then some ⟨t.seconds - seconds, t.nanos⟩ else none

def padded (width n : Nat) : List Char :=
  let ds := Nat.toDigits 10 n
  List.replicate (width - ds.length) '0' ++ ds

def yearChars (year : Int) : List Char :=
  if 0 ≤ year ∧ year ≤ 9999 then padded 4 year.toNat
  else (if year < 0 then '-' else '+') :: padded 4 year.natAbs

/-- The fraction of a second with no digits, or three, six or nine. -/
def fractionChars (nanos : Nat) : List Char :=
  if nanos = 0 then []
  else if nanos % 1000000 = 0 then '.' :: padded 3 (nanos / 1000000)
  else if nanos % 1000 = 0 then '.' :: padded 6 (nanos / 1000)
  else '.' :: padded 9 nanos

def chars (t : Timestamp) : List Char :=
  let days := t.seconds.fdiv 86400
  let second := (t.seconds - days * 86400).toNat
  let (year, month, day) := dateOfDays days
  let extra := t.nanos / 1000000000
  yearChars year ++ '-' :: padded 2 month.toNat ++ '-' :: padded 2 day.toNat ++
    'T' :: padded 2 (second / 3600) ++ ':' :: padded 2 (second / 60 % 60) ++
    ':' :: padded 2 (second % 60 + extra) ++ fractionChars (t.nanos % 1000000000) ++ ['Z']

def toText (t : Timestamp) : String := String.ofList t.chars

def number? (most : Nat) (cs : List Char) : Option (Nat × List Char) :=
  match (cs.take most).takeWhile Char.isDigit with
  | [] => none
  | ds => some (Decimal.natOf ds, cs.drop ds.length)

def year? (cs : List Char) : Option (Int × List Char) :=
  match cs with
  | '-' :: rest => (number? rest.length rest).map fun (n, rest) => (-(n : Int), rest)
  | '+' :: rest => (number? rest.length rest).map fun (n, rest) => ((n : Int), rest)
  | cs => (number? 4 cs).map fun (n, rest) => ((n : Int), rest)

def field? (low high : Nat) (cs : List Char) : Option (Nat × List Char) :=
  match number? 2 (Text.trimStart cs) with
  | some (n, rest) => if low ≤ n ∧ n ≤ high then some (n, rest) else none
  | none => none

def mark? (c : Char) (cs : List Char) : Option (List Char) :=
  match Text.trimStart cs with
  | d :: rest => if d = c then some rest else none
  | [] => none

/-- Nanoseconds after a point; digits after the ninth are passed over. -/
def fraction? : List Char → Option (Nat × List Char)
  | '.' :: cs =>
    (number? 9 cs).map fun (n, rest) =>
      (n * Nat.pow 10 (9 - (cs.length - rest.length)), rest.dropWhile Char.isDigit)
  | cs => some (0, cs)

def offset? (cs : List Char) : Option (Int × List Char) :=
  match cs with
  | 'Z' :: rest | 'z' :: rest => some (0, rest)
  | sign :: a :: b :: rest =>
    if (sign = '+' ∨ sign = '-' ∨ sign = '−') ∧ a.isDigit ∧ b.isDigit then
      match rest.dropWhile fun c => c = ':' || Text.isBlank c with
      | c :: d :: rest =>
        if '0' ≤ c ∧ c ≤ '5' ∧ d.isDigit then
          let hours := (a.toNat - 48) * 10 + (b.toNat - 48)
          let minutes := (c.toNat - 48) * 10 + (d.toNat - 48)
          let seconds : Int := hours * 3600 + minutes * 60
          some (if sign = '+' then seconds else -seconds, rest)
        else none
      | _ => none
    else none
  | _ => none

def zone? (cs : List Char) : Option (Int × List Char) :=
  match cs with
  | a :: b :: c :: rest =>
    if a.toLower = 'u' ∧ b.toLower = 't' ∧ c.toLower = 'c' then some (0, rest) else offset? cs
  | cs => offset? cs

def ofChars? (cs : List Char) : Option Timestamp := do
  let (year, cs) ← year? (Text.trimStart cs)
  let cs ← mark? '-' cs
  let (month, cs) ← field? 1 12 cs
  let cs ← mark? '-' cs
  let (day, cs) ← field? 1 31 cs
  let cs ← match cs with
    | 't' :: rest | 'T' :: rest | ' ' :: rest => some rest
    | _ => none
  let (hour, cs) ← field? 0 23 cs
  let cs ← mark? ':' cs
  let (minute, cs) ← field? 0 59 cs
  let cs ← mark? ':' cs
  let (second, cs) ← field? 0 60 cs
  let (nanos, cs) ← fraction? cs
  let (offset, cs) ← zone? (Text.trimStart cs)
  guard (Text.trimStart cs).isEmpty
  guard (offset.natAbs < 86400 ∧ (day : Int) ≤ daysInMonth year month ∧
    -262143 ≤ year ∧ year ≤ 262142)
  let clock : Int := hour * 3600 + minute * 60 + (if second = 60 then 59 else second)
  let seconds := daysOfDate year month day * 86400 + clock - offset
  guard (earliest ≤ seconds ∧ seconds ≤ latest)
  return ⟨seconds, nanos + (if second = 60 then 1000000000 else 0)⟩

end Timestamp

end Stepwise
