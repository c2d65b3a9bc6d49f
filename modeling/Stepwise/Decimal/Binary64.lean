/-!
Binary floating-point numbers of 64 bits, in exact integer arithmetic. A number is its bits; its
magnitude is `mantissa * 2 ^ exponent`, and every operation rounds the exact result to the nearest
number, a tie to the even mantissa.
-/

namespace Stepwise

structure Binary64 where
  bits : UInt64
  deriving DecidableEq, Repr

namespace Binary64

/-- The value `mantissa * 2 ^ exponent`. -/
structure Magnitude where
  mantissa : Nat
  exponent : Int
  deriving DecidableEq, Repr

def isNegative (x : Binary64) : Bool := x.bits >>> 63 == 1

def exponentField (x : Binary64) : Nat := ((x.bits >>> 52) &&& 0x7FF).toNat

def fraction (x : Binary64) : Nat := (x.bits &&& 0xFFFFFFFFFFFFF).toNat

def isFinite (x : Binary64) : Bool := x.exponentField != 0x7FF

def hiddenBit : Nat := 0x10000000000000

def magnitude (x : Binary64) : Magnitude :=
  if x.exponentField = 0 then ⟨x.fraction, -1074⟩
  else ⟨x.fraction + hiddenBit, x.exponentField - 1075⟩

def isZero (x : Binary64) : Bool := x.exponentField == 0 && x.fraction == 0

def neg (x : Binary64) : Binary64 := ⟨x.bits ^^^ 0x8000000000000000⟩

/-- A quotient rounded to the nearest integer, a tie to the even one. -/
def roundHalfEven (num den : Nat) : Nat :=
  let q := num / den
  let r := num % den
  if 2 * r < den then q
  else if den < 2 * r then q + 1
  else q + q % 2

/-- The bits of `mantissa * 2 ^ exponent`, whose mantissa is at most `2 ^ 53`; the exponent is at
least `-1074` and equals it if the mantissa has fewer than 53 bits. -/
def ofMagnitude (mantissa : Nat) (exponent : Int) : Option Binary64 :=
  let (m, e) := if mantissa = 2 * hiddenBit then (hiddenBit, exponent + 1) else (mantissa, exponent)
  if m < hiddenBit then some ⟨m.toUInt64⟩
  else if 971 < e then none
  else some ⟨((e + 1075).toNat * hiddenBit + (m - hiddenBit)).toUInt64⟩

/-- The number nearest to `num / den`, or `none` where that is beyond the largest one. -/
def nearest (num den : Nat) : Option Binary64 :=
  if num = 0 then some ⟨0⟩
  else
    let guess : Int := num.log2 - den.log2
    let reached := den * Nat.pow 2 guess.toNat ≤ num * Nat.pow 2 (-guess).toNat
    let top := if reached then guess else guess - 1
    let exponent := max (top - 52) (-1074)
    let mantissa :=
      roundHalfEven (num * Nat.pow 2 (-exponent).toNat) (den * Nat.pow 2 exponent.toNat)
    ofMagnitude mantissa exponent

def Magnitude.ratio (x : Magnitude) : Nat × Nat :=
  (x.mantissa * Nat.pow 2 x.exponent.toNat, Nat.pow 2 (-x.exponent).toNat)

def mulNearest (x y : Binary64) : Option Binary64 :=
  let (a, b) := x.magnitude.ratio
  let (c, d) := y.magnitude.ratio
  nearest (a * c) (b * d)

def divNearest (x y : Binary64) : Option Binary64 :=
  let (a, b) := x.magnitude.ratio
  let (c, d) := y.magnitude.ratio
  nearest (a * d) (b * c)

def tenPow (n : Nat) : Binary64 := (nearest (Nat.pow 10 n) 1).getD ⟨0⟩

/-- Divides by `10 ^ 308` while the exponent is below `-308`; a scaling that reaches zero stays. -/
def scaleDown (fuel : Nat) (x : Binary64) (exponent : Nat) : Option Binary64 :=
  match fuel with
  | 0 => some x
  | fuel + 1 =>
    if exponent ≤ 308 then x.divNearest (tenPow exponent)
    else if x.isZero then some x
    else (x.divNearest (tenPow 308)).bind fun y => scaleDown fuel y (exponent - 308)

/-- `significand * 10 ^ exponent` in two roundings: the significand is rounded, and then its product
with, or quotient by, the rounded power of ten. `none` where the result is too large. -/
def ofScaled (significand : Nat) (exponent : Int) : Option Binary64 :=
  (nearest significand 1).bind fun x =>
    if exponent < 0 then scaleDown 4 x (-exponent).toNat
    else if exponent ≤ 308 then x.mulNearest (tenPow exponent.toNat)
    else if x.isZero then some x
    else none

end Binary64

end Stepwise
