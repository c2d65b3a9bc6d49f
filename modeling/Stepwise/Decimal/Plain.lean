import Stepwise.Decimal.Digits
import Stepwise.Json.Printer
/-!
Binary numbers in plain decimal notation. Reading rounds once, to the nearest number, and goes to
infinity beyond the largest one; writing takes the shortest decimal that reads back and never a
scientific form.
-/

namespace Stepwise

namespace Binary64

def infinity : Binary64 := ⟨0x7FF0000000000000⟩

def nan : Binary64 := ⟨0x7FF8000000000000⟩

def isNan (x : Binary64) : Bool := !x.isFinite && x.fraction != 0

def ofDecimal (digits : Nat) (exponent : Int) : Binary64 :=
  let lead : Int := (Nat.toDigits 10 digits).length + exponent
  if digits = 0 ∨ lead < -400 then ⟨0⟩
  else if 400 < lead then infinity
  else
    (nearest (digits * Nat.pow 10 exponent.toNat) (Nat.pow 10 (-exponent).toNat)).getD infinity

def positionalChars (d : Decimal) : List Char :=
  let ds := Nat.toDigits 10 d.digits
  let lead : Int := d.exponent + ds.length
  if 0 ≤ d.exponent then ds ++ zeros d.exponent.toNat
  else if 0 < lead then ds.take lead.toNat ++ '.' :: ds.drop lead.toNat
  else '0' :: '.' :: zeros (-lead).toNat ++ ds

def plainChars (x : Binary64) : List Char :=
  if x.isNan then ['N', 'a', 'N']
  else
    (if x.isNegative then ['-'] else []) ++
      if !x.isFinite then ['i', 'n', 'f']
      else if x.isZero then ['0']
      else positionalChars x.shortest

/-- The nearest unsigned integer of 64 bits, a half going up. Nothing below zero is nearer than
zero, and what is no number counts as zero. -/
def toUnsigned (x : Binary64) : Nat :=
  if x.isNan || x.isNegative then 0
  else if !x.isFinite then UInt64.size - 1
  else
    let (num, den) := x.magnitude.ratio
    min ((2 * num + den) / (2 * den)) (UInt64.size - 1)

end Binary64

namespace Decimal

def sign : List Char → Bool × List Char
  | '-' :: rest => (true, rest)
  | '+' :: rest => (false, rest)
  | cs => (false, cs)

def exponent? : List Char → Option Int
  | [] => some 0
  | c :: rest =>
    if c = 'e' ∨ c = 'E' then
      let (down, ds) := sign rest
      match digitsOf ds with
      | ([], _) => none
      | (ds, []) => some (if down then -(natOf ds : Int) else natOf ds)
      | _ => none
    else none

/-- An unsigned number: digits on at least one side of a point that may be missing, and perhaps an
exponent. -/
def magnitude? (cs : List Char) : Option Binary64 :=
  let (whole, rest) := digitsOf cs
  let (fraction, rest) := match rest with
    | '.' :: rest => digitsOf rest
    | rest => ([], rest)
  if whole.isEmpty ∧ fraction.isEmpty then none
  else
    (exponent? rest).map fun e =>
      Binary64.ofDecimal (natOf (whole ++ fraction)) (e - fraction.length)

def word? (cs : List Char) : Option Binary64 :=
  let word := String.ofList (cs.map Char.toLower)
  if word = "inf" ∨ word = "infinity" then some .infinity
  else if word = "nan" then some .nan
  else none

def float? (cs : List Char) : Option Binary64 :=
  let (negative, rest) := sign cs
  let value := match word? rest with
    | some x => some x
    | none => magnitude? rest
  value.map fun x => if negative then x.neg else x

def int? (cs : List Char) : Option Int :=
  let (negative, rest) := sign cs
  match digitsOf rest with
  | ([], _) => none
  | (ds, []) => some (if negative then -(natOf ds : Int) else natOf ds)
  | _ => none

def int64? (cs : List Char) : Option Int :=
  (int? cs).filter fun i => -Nat.pow 2 63 ≤ i ∧ i < Nat.pow 2 63

def natBelow? (bound : Nat) (cs : List Char) : Option Nat :=
  match cs with
  | '-' :: _ => none
  | cs => (int? cs).bind fun i => if i < bound then some i.toNat else none

end Decimal

end Stepwise
