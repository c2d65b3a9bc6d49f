import Stepwise.Json.Basic
import Stepwise.Decimal.Shortest
/-!
Writing JSON. `Json.compact` has no spaces; `Json.pretty` puts each item and member on a line of
its own, two spaces deeper than its container. A binary number is the shortest decimal that reads
back: positional for leading exponents from `-5` to `15` and with a decimal point always,
otherwise with one digit before the point and a signed exponent.
-/

namespace Stepwise

/-- Where positional notation begins and ends, by the exponent of the leading digit. -/
structure FloatFormat where
  leastPositional : Int
  greatestPositional : Int

def Number.format : FloatFormat := ⟨-5, 15⟩

def zeros (n : Nat) : List Char := List.replicate n '0'

def Decimal.chars (f : FloatFormat) (d : Decimal) : List Char :=
  let ds := Nat.toDigits 10 d.digits
  let lead : Int := d.exponent + ds.length - 1
  if f.leastPositional ≤ lead ∧ lead ≤ f.greatestPositional then
    if 0 ≤ d.exponent then ds ++ zeros d.exponent.toNat ++ ['.', '0']
    else if 0 ≤ lead then ds.take (lead + 1).toNat ++ '.' :: ds.drop (lead + 1).toNat
    else '0' :: '.' :: zeros (-lead - 1).toNat ++ ds
  else
    let exponent := (if lead < 0 then '-' else '+') :: Nat.toDigits 10 lead.natAbs
    match ds with
    | [] => []
    | [d] => d :: 'e' :: exponent
    | d :: rest => d :: '.' :: rest ++ 'e' :: exponent

def Binary64.chars (f : FloatFormat) (x : Binary64) : List Char :=
  (if x.isNegative then ['-'] else []) ++
    if x.isZero then ['0', '.', '0'] else x.shortest.chars f

def intChars (i : Int) : List Char :=
  if i < 0 then '-' :: Nat.toDigits 10 i.natAbs else Nat.toDigits 10 i.natAbs

def Number.chars : Number → List Char
  | .int i => intChars i
  | .float x => x.chars Number.format

namespace Json

def hexDigit (n : Nat) : Char :=
  if n < 10 then Char.ofNat (48 + n) else Char.ofNat (87 + n)

def escape (c : Char) : List Char :=
  if c = '"' then ['\\', '"']
  else if c = '\\' then ['\\', '\\']
  else if c = '\n' then ['\\', 'n']
  else if c = '\r' then ['\\', 'r']
  else if c = '\t' then ['\\', 't']
  else if c = '\x08' then ['\\', 'b']
  else if c = '\x0c' then ['\\', 'f']
  else if c.toNat < 0x20 then
    ['\\', 'u', '0', '0', hexDigit (c.toNat / 16), hexDigit (c.toNat % 16)]
  else [c]

def quoted (s : String) : List Char := '"' :: s.toList.flatMap escape ++ ['"']

mutual

def compactChars : Json → List Char
  | null => ['n', 'u', 'l', 'l']
  | bool true => ['t', 'r', 'u', 'e']
  | bool false => ['f', 'a', 'l', 's', 'e']
  | num n => n.chars
  | str s => quoted s
  | arr items => '[' :: compactItems items
  | obj members => '\x7b' :: compactMembers members

def compactItems : List Json → List Char
  | [] => [']']
  | [j] => compactChars j ++ [']']
  | j :: rest => compactChars j ++ ',' :: compactItems rest

def compactMembers : List (String × Json) → List Char
  | [] => ['\x7d']
  | [(k, v)] => quoted k ++ ':' :: compactChars v ++ ['\x7d']
  | (k, v) :: rest => quoted k ++ ':' :: compactChars v ++ ',' :: compactMembers rest

end

def compact (j : Json) : String := String.ofList j.compactChars

def newline (depth : Nat) : List Char := '\n' :: List.replicate (2 * depth) ' '

mutual

def prettyChars (depth : Nat) : Json → List Char
  | arr (item :: rest) => '[' :: prettyItems (depth + 1) (item :: rest)
  | obj (member :: rest) => '\x7b' :: prettyMembers (depth + 1) (member :: rest)
  | j => compactChars j

def prettyItems (depth : Nat) : List Json → List Char
  | [] => newline (depth - 1) ++ [']']
  | j :: rest =>
    newline depth ++ prettyChars depth j ++ (if rest.isEmpty then [] else [',']) ++
      prettyItems depth rest

def prettyMembers (depth : Nat) : List (String × Json) → List Char
  | [] => newline (depth - 1) ++ ['\x7d']
  | (k, v) :: rest =>
    newline depth ++ quoted k ++ ':' :: ' ' :: prettyChars depth v ++
      (if rest.isEmpty then [] else [',']) ++ prettyMembers depth rest

end

def pretty (j : Json) : String := String.ofList (j.prettyChars 0)

end Json

end Stepwise
