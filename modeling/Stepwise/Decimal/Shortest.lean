import Stepwise.Decimal.Binary64
/-!
The shortest decimal that reads back as a given number: the fewest digits, and of those the
nearest to the number. Grids of one to seventeen digits are tried in turn; a grid has a point that
reads back exactly when one of the number's two neighbours on it does.
-/

namespace Stepwise

/-- The value `digits * 10 ^ exponent`. -/
structure Decimal where
  digits : Nat
  exponent : Int
  deriving DecidableEq, Repr

def Decimal.reduce (d : Decimal) : Decimal :=
  if h : d.digits ≠ 0 ∧ d.digits % 10 = 0 then
    Decimal.reduce ⟨d.digits / 10, d.exponent + 1⟩
  else d
termination_by d.digits
decreasing_by exact Nat.div_lt_self (Nat.pos_of_ne_zero h.1) (by decide)

namespace Binary64

/-- The interval of reals that round to a number, in units of a quarter of its last place, and
whether the ends belong to it. -/
structure Interval where
  low : Nat
  value : Nat
  high : Nat
  closed : Bool

def interval (x : Binary64) : Interval :=
  let m := x.magnitude.mantissa
  let gap := if m = hiddenBit ∧ 1 < x.exponentField then 1 else 2
  ⟨4 * m - gap, 4 * m, 4 * m + 2, m % 2 == 0⟩

def Interval.contains (i : Interval) (scaled : Nat) (unit : Nat) : Bool :=
  if i.closed then i.low * unit ≤ scaled && scaled ≤ i.high * unit
  else i.low * unit < scaled && scaled < i.high * unit

def leadingExponent (num den : Nat) : Int :=
  let guess : Int := ((num.log2 : Int) - den.log2) * 30103 / 100000
  let atLeast (e : Int) : Bool :=
    den * Nat.pow 10 e.toNat ≤ num * Nat.pow 10 (-e).toNat
  if atLeast (guess + 1) then guess + 1
  else if atLeast guess then guess
  else guess - 1

/-- The point nearest to the number on the grid of multiples of `10 ^ grid`, if it reads back. -/
def onGrid? (x : Binary64) (grid : Int) : Option Nat :=
  let i := x.interval
  let q := x.magnitude.exponent - 2
  let unit := Nat.pow 2 q.toNat * Nat.pow 10 (-grid).toNat
  let point := Nat.pow 2 (-q).toNat * Nat.pow 10 grid.toNat
  let below := i.value * unit / point
  let above := below + 1
  let fits (c : Nat) : Bool := i.contains (c * point) unit
  match fits below, fits above with
  | false, false => none
  | true, false => some below
  | false, true => some above
  | true, true =>
    let down := i.value * unit - below * point
    let up := above * point - i.value * unit
    if down < up then some below
    else if up < down then some above
    else some (if below % 2 == 0 then below else above)

/-- The shortest decimal of the magnitude of a number that is finite and not zero. -/
def shortest (x : Binary64) : Decimal :=
  let (num, den) := x.magnitude.ratio
  let lead := leadingExponent num den
  let grids := (List.range 17).map fun (n : Nat) => lead - n
  match grids.findSome? fun g => (x.onGrid? g).map fun c => (⟨c, g⟩ : Decimal) with
  | some d => d.reduce
  | none => ⟨0, 0⟩

end Binary64

end Stepwise
