import Stepwise.Decimal.Plain
import Stepwise.Json.Reader
import Stepwise.Time
/-!
Dates, times and numbers of TOML. Each reader takes the longest scalar of its kind off the front of
a text. Underscores may stand between digits; an integer has 64 bits, and dates and times are kept
as texts in a form that does not depend on how they were written.
-/

namespace Stepwise.Toml

def readRun (isDigit : Char → Bool) : List Char → Option (List Char × List Char)
  | [] => none
  | c :: rest =>
    if isDigit c then
      match rest with
      | '_' :: after => (readRun isDigit after).map fun (ds, rest) => (c :: ds, rest)
      | rest =>
        match readRun isDigit rest with
        | some (ds, rest) => some (c :: ds, rest)
        | none => if (rest.head?.map isDigit).getD false then none else some ([c], rest)
    else none

def readWhole : List Char → Option (List Char × List Char)
  | '0' :: rest => some (['0'], rest)
  | cs => readRun Char.isDigit cs

namespace Scalar

def field? (count low high : Nat) (cs : List Char) : Option (Nat × List Char) :=
  let ds := cs.take count
  let n := Decimal.natOf ds
  if ds.length = count ∧ ds.all Char.isDigit ∧ low ≤ n ∧ n ≤ high then some (n, cs.drop count)
  else none

def mark? (c : Char) : List Char → Option (List Char)
  | d :: rest => if d = c then some rest else none
  | [] => none

def date? (cs : List Char) : Option (List Char × List Char) := do
  let (year, cs) ← field? 4 0 9999 cs
  let cs ← mark? '-' cs
  let (month, cs) ← field? 2 1 12 cs
  let cs ← mark? '-' cs
  let (day, cs) ← field? 2 1 (Timestamp.daysInMonth year month).toNat cs
  return (Timestamp.padded 4 year ++ '-' :: Timestamp.padded 2 month ++ '-' ::
    Timestamp.padded 2 day, cs)

/-- The fraction of a second, cut after nine digits and without zeros at its end. -/
def fraction? : List Char → Option (List Char × List Char)
  | '.' :: cs =>
    match Decimal.digitsOf cs with
    | ([], _) => none
    | (ds, rest) =>
      match ((ds.take 9).reverse.dropWhile (· = '0')).reverse with
      | [] => some ([], rest)
      | ds => some ('.' :: ds, rest)
  | cs => some ([], cs)

def time? (cs : List Char) : Option (List Char × List Char) := do
  let (hour, cs) ← field? 2 0 23 cs
  let cs ← mark? ':' cs
  let (minute, cs) ← field? 2 0 59 cs
  let cs ← mark? ':' cs
  let (second, cs) ← field? 2 0 60 cs
  let (fraction, cs) ← fraction? cs
  return (Timestamp.padded 2 hour ++ ':' :: Timestamp.padded 2 minute ++ ':' ::
    Timestamp.padded 2 second ++ fraction, cs)

def offset? (cs : List Char) : Option (List Char × List Char) :=
  match cs with
  | 'Z' :: rest | 'z' :: rest => some (['Z'], rest)
  | c :: rest =>
    if c = '+' ∨ c = '-' then do
      let (hour, rest) ← field? 2 0 23 rest
      let rest ← mark? ':' rest
      let (minute, rest) ← field? 2 0 59 rest
      let sign := if hour = 0 ∧ minute = 0 then '+' else c
      return (sign :: Timestamp.padded 2 hour ++ ':' :: Timestamp.padded 2 minute, rest)
    else some ([], cs)
  | [] => some ([], [])

def moment? (cs : List Char) : Option (List Char × List Char) :=
  match date? cs with
  | some (date, c :: rest) =>
    if c = 'T' ∨ c = 't' ∨ c = ' ' then
      match time? rest with
      | some (time, rest) =>
        (offset? rest).map fun (offset, rest) => (date ++ 'T' :: time ++ offset, rest)
      | none => some (date, c :: rest)
    else some (date, c :: rest)
  | some (date, []) => some (date, [])
  | none => time? cs

/-- Whether a text begins like a date or a time, so that it cannot be a number. -/
def beginsMoment (cs : List Char) : Bool :=
  ((cs.take 4).all Char.isDigit && (cs.drop 4).head? == some '-') ||
    ((cs.take 2).all Char.isDigit && (cs.drop 2).head? == some ':')

def signed (negative : Bool) (x : Binary64) : Binary64 := if negative then x.neg else x

def power? : List Char → Option (Option Int × List Char)
  | c :: rest =>
    if c = 'e' ∨ c = 'E' then
      let (down, rest) := Decimal.sign rest
      (readRun Char.isDigit rest).map fun (ds, rest) =>
        (some (if down then -(Decimal.natOf ds : Int) else Decimal.natOf ds), rest)
    else some (none, c :: rest)
  | [] => some (none, [])

def int64? (negative : Bool) (n : Nat) : Option Json :=
  let i : Int := if negative then -n else n
  if -Nat.pow 2 63 ≤ i ∧ i < Nat.pow 2 63 then some (.int i) else none

/-- A decimal integer or a binary number; one too large for a binary number is refused, unless it
is negative. -/
def decimal? (cs : List Char) : Option (Json × List Char) := do
  let (negative, cs) := Decimal.sign cs
  let (whole, cs) ← readWhole cs
  let (fraction, cs) ← match cs with
    | '.' :: cs => (readRun Char.isDigit cs).map fun (ds, rest) => (some ds, rest)
    | cs => some (none, cs)
  let (power, cs) ← power? cs
  if fraction.isNone ∧ power.isNone then
    return (← int64? negative (Decimal.natOf whole), cs)
  else
    let fraction := fraction.getD []
    let x := signed negative
      (.ofDecimal (Decimal.natOf (whole ++ fraction)) (power.getD 0 - fraction.length))
    if x = .infinity then none else some (.num (.float x), cs)

def isOctal (c : Char) : Bool := '0' ≤ c && c ≤ '7'

def isBinary (c : Char) : Bool := c = '0' || c = '1'

def isHex (c : Char) : Bool := (Json.hexValue? c).isSome

def based? (base : Nat) (isDigit : Char → Bool) (cs : List Char) : Option (Json × List Char) := do
  let (ds, cs) ← readRun isDigit cs
  return (← int64? false (ds.foldl (fun n c => base * n + (Json.hexValue? c).getD 0) 0), cs)

def special? (cs : List Char) : Option (Json × List Char) :=
  let (negative, cs) := Decimal.sign cs
  match cs with
  | 'i' :: 'n' :: 'f' :: rest => some (.num (.float (signed negative .infinity)), rest)
  | 'n' :: 'a' :: 'n' :: rest => some (.num (.float (signed negative .nan)), rest)
  | _ => none

def number? (cs : List Char) : Option (Json × List Char) :=
  match cs with
  | '0' :: 'x' :: rest => based? 16 isHex rest
  | '0' :: 'o' :: rest => based? 8 isOctal rest
  | '0' :: 'b' :: rest => based? 2 isBinary rest
  | cs =>
    match special? cs with
    | some r => some r
    | none => decimal? cs

def read (cs : List Char) : Option (Json × List Char) :=
  match cs with
  | 't' :: 'r' :: 'u' :: 'e' :: rest => some (.bool true, rest)
  | 'f' :: 'a' :: 'l' :: 's' :: 'e' :: rest => some (.bool false, rest)
  | cs =>
    if beginsMoment cs then (moment? cs).map fun (t, rest) => (.str (String.ofList t), rest)
    else number? cs

end Scalar

end Stepwise.Toml
