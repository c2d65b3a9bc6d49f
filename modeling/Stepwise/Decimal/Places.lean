import Stepwise.Decimal.Shortest
/-!
A quotient written with a given number of digits: after the point, in scientific notation, or by
whichever of the two is fit for its size. The last digit is rounded, a tie to the even one.
-/

namespace Stepwise.Decimal

open Binary64 (roundHalfEven leadingExponent)

def withPoint (places : Nat) (keepPoint : Bool) (n : Nat) : List Char :=
  let ds := Nat.toDigits 10 n
  let ds := List.replicate (places + 1 - ds.length) '0' ++ ds
  let whole := ds.take (ds.length - places)
  if places = 0 then whole ++ (if keepPoint then ['.'] else [])
  else whole ++ '.' :: ds.drop (ds.length - places)

def positional (num den places : Nat) (keepPoint : Bool) : List Char :=
  withPoint places keepPoint (roundHalfEven (num * Nat.pow 10 places) den)

/-- The digits of a quotient from its leading one on, and the power of ten of that one. -/
def leading (num den places : Nat) : Nat × Int :=
  if num = 0 then (0, 0)
  else
    let e := leadingExponent num den
    let shift : Int := places - e
    let n := roundHalfEven (num * Nat.pow 10 shift.toNat) (den * Nat.pow 10 (-shift).toNat)
    if n = Nat.pow 10 (places + 1) then (Nat.pow 10 places, e + 1) else (n, e)

def exponentChars (e : Int) : List Char :=
  let ds := Nat.toDigits 10 e.natAbs
  'e' :: (if e < 0 then '-' else '+') :: (if ds.length < 2 then '0' :: ds else ds)

def scientific (num den places : Nat) (keepPoint : Bool) : List Char :=
  let (n, e) := leading num den places
  withPoint places keepPoint n ++ exponentChars e

def dropZeros (cs : List Char) : List Char :=
  if cs.contains '.' then
    match cs.reverse.dropWhile (· = '0') with
    | '.' :: rest => rest.reverse
    | rest => rest.reverse
  else cs

/-- So many significant digits, positional for leading exponents from `-4` up to their number. -/
def general (num den digits : Nat) (keepZeros : Bool) : List Char :=
  let digits := max digits 1
  let (n, e) := leading num den (digits - 1)
  let trim (cs : List Char) := if keepZeros then cs else dropZeros cs
  if -4 ≤ e ∧ e < digits then
    trim (positional num den (digits - 1 - e).toNat keepZeros)
  else trim (withPoint (digits - 1) keepZeros n) ++ exponentChars e

end Stepwise.Decimal
