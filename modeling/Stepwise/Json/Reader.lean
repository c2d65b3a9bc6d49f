import Stepwise.Decimal.Digits
import Stepwise.Json.Basic
import Stepwise.Table
/-!
Reading JSON text. A text is first read into a `Tree`, which keeps repeated members, the digits of
numbers and strings with an escape that names no character. Making a value of a tree is a second
step, `Tree.value?`, because members that a reader passes over are held only to the grammar:
their depth, the size of their numbers and their escapes do not matter.
-/

namespace Stepwise.Json

structure Numeral where
  negative : Bool
  whole : List Char
  fraction : List Char
  exponent : Option (Bool × List Char)
  deriving DecidableEq

/-- What a text says. A string is absent where one of its escapes names no character. -/
inductive Tree where
  | null
  | bool (value : Bool)
  | num (value : Numeral)
  | str (value : Option String)
  | arr (items : List Tree)
  | obj (members : List (Option String × Tree))

instance : Inhabited Tree := ⟨.null⟩

/-- The digits, most significant first, that fit in 64 bits, and how many follow them. -/
def significand (acc : Nat) : List Char → Nat × List Char
  | [] => (acc, [])
  | c :: rest =>
    let next := 10 * acc + (c.toNat - 48)
    if next < UInt64.size then significand next rest else (acc, c :: rest)

namespace Numeral

def signed (negative : Bool) (x : Binary64) : Binary64 := if negative then x.neg else x

def scaled (n : Numeral) : Nat × Int :=
  let (whole, beyond) := significand 0 n.whole
  if beyond.isEmpty then
    let (all, dropped) := significand whole n.fraction
    (all, -((n.fraction.length - dropped.length : Nat) : Int))
  else
    let (all, dropped) := significand whole n.fraction
    (all, (beyond.length : Int) - ((n.fraction.length - dropped.length : Nat) : Int))

def float? (n : Numeral) : Option Binary64 :=
  let (digits, exponent) := n.scaled
  match n.exponent with
  | none => (Binary64.ofScaled digits exponent).map (signed n.negative)
  | some (down, ds) =>
    let e := Decimal.natOf ds
    if e ≥ Nat.pow 2 31 then
      if digits ≠ 0 ∧ ¬ down then none else some (signed n.negative ⟨0⟩)
    else
      (Binary64.ofScaled digits (if down then exponent - e else exponent + e)).map
        (signed n.negative)

/-- The number written, or `none` where it is beyond the largest binary one. A negative zero and
an integer of more than 64 bits are binary. -/
def number? (n : Numeral) : Option Number :=
  if n.fraction.isEmpty ∧ n.exponent.isNone then
    let v := Decimal.natOf n.whole
    if n.negative then
      if v ≠ 0 ∧ v ≤ Nat.pow 2 63 then some (.int (-v)) else n.float?.map .float
    else if v < UInt64.size then some (.int v)
    else n.float?.map .float
  else n.float?.map .float

end Numeral

def isSpace (c : Char) : Bool := c = ' ' || c = '\n' || c = '\t' || c = '\r'

def skipSpace (cs : List Char) : List Char := cs.dropWhile isSpace

def hexValue? (c : Char) : Option Nat :=
  if '0' ≤ c ∧ c ≤ '9' then some (c.toNat - 48)
  else if 'a' ≤ c ∧ c ≤ 'f' then some (c.toNat - 87)
  else if 'A' ≤ c ∧ c ≤ 'F' then some (c.toNat - 55)
  else none

def hex4? (a b c d : Char) : Option Nat := do
  return (((← hexValue? a) * 16 + (← hexValue? b)) * 16 + (← hexValue? c)) * 16 + (← hexValue? d)

def simpleEscape? : Char → Option Char
  | '"' => some '"'
  | '\\' => some '\\'
  | '/' => some '/'
  | 'b' => some '\x08'
  | 'f' => some '\x0c'
  | 'n' => some '\n'
  | 'r' => some '\r'
  | 't' => some '\t'
  | _ => none

/-- What follows an escaped unit of a surrogate pair's first half: the second half, if it is one. -/
def lowHalf? : List Char → Option (Nat × List Char)
  | '\\' :: 'u' :: a :: b :: c :: d :: rest =>
    match hex4? a b c d with
    | some low => if 0xDC00 ≤ low ∧ low < 0xE000 then some (low, rest) else none
    | none => none
  | _ => none

theorem lowHalf?_shorter {cs rest : List Char} {low : Nat} (h : lowHalf? cs = some (low, rest)) :
    rest.length < cs.length := by
  unfold lowHalf? at h
  split at h
  · split at h
    · split at h
      · simp only [Option.some.injEq, Prod.mk.injEq] at h
        rw [← h.2]
        simp only [List.length_cons]
        omega
      · simp at h
    · simp at h
  · simp at h

/-- The characters up to the closing quote, those read so far in reverse, and the text after it.
`valid` says that every escape so far names a character. -/
def readString (valid : Bool) (done : List Char) (cs : List Char) :
    Option (Option String × List Char) :=
  match cs with
  | [] => none
  | '"' :: rest => some (if valid then some (String.ofList done.reverse) else none, rest)
  | '\\' :: 'u' :: a :: b :: c :: d :: rest =>
    match hex4? a b c d with
    | none => none
    | some n =>
      if 0xD800 ≤ n ∧ n < 0xDC00 then
        match h : lowHalf? rest with
        | some (low, rest') =>
          have : rest'.length < rest.length := lowHalf?_shorter h
          readString valid (Char.ofNat (0x10000 + (n - 0xD800) * 0x400 + (low - 0xDC00)) :: done)
            rest'
        | none => readString false done rest
      else if 0xDC00 ≤ n ∧ n < 0xE000 then readString false done rest
      else readString valid (Char.ofNat n :: done) rest
  | '\\' :: c :: rest =>
    match simpleEscape? c with
    | some e => readString valid (e :: done) rest
    | none => none
  | c :: rest => if c.toNat < 0x20 then none else readString valid (c :: done) rest
termination_by cs.length
decreasing_by all_goals (simp_wf <;> omega)

def readWhole (cs : List Char) : Option (List Char × List Char) :=
  match Decimal.digitsOf cs with
  | ([], _) => none
  | ('0' :: _ :: _, _) => none
  | r => some r

def readFraction : List Char → Option (List Char × List Char)
  | '.' :: cs =>
    match Decimal.digitsOf cs with
    | ([], _) => none
    | r => some r
  | cs => some ([], cs)

def readExponent : List Char → Option (Option (Bool × List Char) × List Char)
  | c :: cs =>
    if c = 'e' ∨ c = 'E' then
      let (down, cs) := match cs with
        | '+' :: cs => (false, cs)
        | '-' :: cs => (true, cs)
        | cs => (false, cs)
      match Decimal.digitsOf cs with
      | ([], _) => none
      | (ds, rest) => some (some (down, ds), rest)
    else some (none, c :: cs)
  | [] => some (none, [])

def readNumeral (cs : List Char) : Option (Numeral × List Char) := do
  let (negative, cs) := match cs with
    | '-' :: cs => (true, cs)
    | cs => (false, cs)
  let (whole, cs) ← readWhole cs
  let (fraction, cs) ← readFraction cs
  let (exponent, cs) ← readExponent cs
  return (⟨negative, whole, fraction, exponent⟩, cs)

mutual

/-- The value at the front of a text without leading space. The fuel bounds the number of values. -/
def readTree (fuel : Nat) (cs : List Char) : Option (Tree × List Char) :=
  match fuel with
  | 0 => none
  | fuel + 1 =>
    match cs with
    | 'n' :: 'u' :: 'l' :: 'l' :: rest => some (.null, rest)
    | 't' :: 'r' :: 'u' :: 'e' :: rest => some (.bool true, rest)
    | 'f' :: 'a' :: 'l' :: 's' :: 'e' :: rest => some (.bool false, rest)
    | '"' :: rest => (readString true [] rest).map fun (s, rest) => (.str s, rest)
    | '[' :: rest =>
      match skipSpace rest with
      | ']' :: rest => some (.arr [], rest)
      | rest => readItems fuel [] rest
    | '\x7b' :: rest =>
      match skipSpace rest with
      | '\x7d' :: rest => some (.obj [], rest)
      | rest => readMembers fuel [] rest
    | cs => (readNumeral cs).map fun (n, rest) => (.num n, rest)

def readItems (fuel : Nat) (done : List Tree) (cs : List Char) : Option (Tree × List Char) :=
  match fuel with
  | 0 => none
  | fuel + 1 =>
    match readTree fuel cs with
    | none => none
    | some (item, rest) =>
      match skipSpace rest with
      | ',' :: rest => readItems fuel (item :: done) (skipSpace rest)
      | ']' :: rest => some (.arr (item :: done).reverse, rest)
      | _ => none

def readMembers (fuel : Nat) (done : List (Option String × Tree)) (cs : List Char) :
    Option (Tree × List Char) :=
  match fuel with
  | 0 => none
  | fuel + 1 =>
    match cs with
    | '"' :: rest =>
      match readString true [] rest with
      | none => none
      | some (name, rest) =>
        match skipSpace rest with
        | ':' :: rest =>
          match readTree fuel (skipSpace rest) with
          | none => none
          | some (value, rest) =>
            match skipSpace rest with
            | ',' :: rest => readMembers fuel ((name, value) :: done) (skipSpace rest)
            | '\x7d' :: rest => some (.obj ((name, value) :: done).reverse, rest)
            | _ => none
        | _ => none
    | _ => none

end

def Tree.ofChars? (cs : List Char) : Option Tree :=
  match readTree (2 * cs.length + 2) (skipSpace cs) with
  | some (tree, rest) => if (skipSpace rest).isEmpty then some tree else none
  | none => none

/-- Which parts of a value a reader looks at. -/
inductive Shape where
  | free
  | list (item : Shape)
  /-- The members named, each as often as it is written. Others are kept if the record is open,
  and otherwise only held to the grammar. -/
  | record (members : List (String × Shape)) (isOpen : Bool)

instance : Inhabited Shape := ⟨.free⟩

/-- How many containers may stand inside each other. -/
def depthLimit : Nat := 127

mutual

/-- The value of a tree taken whole: the last of repeated members counts, and members stand in the
order of their names. `room` is how many more containers may be entered. -/
def Tree.value? (room : Nat) : Tree → Option Json
  | .null => some .null
  | .bool b => some (.bool b)
  | .num n => n.number?.map .num
  | .str s => s.map .str
  | .arr items =>
    match room with
    | 0 => none
    | room + 1 => (Tree.values? room items).map .arr
  | .obj members =>
    match room with
    | 0 => none
    | room + 1 => (Tree.memberValues? room members).map fun ms => .obj (Table.ofList ms).entries

def Tree.values? (room : Nat) : List Tree → Option (List Json)
  | [] => some []
  | t :: rest => do return (← Tree.value? room t) :: (← Tree.values? room rest)

def Tree.memberValues? (room : Nat) : List (Option String × Tree) → Option (List (String × Json))
  | [] => some []
  | (name, t) :: rest => do
    return (← name, ← Tree.value? room t) :: (← Tree.memberValues? room rest)

end

mutual

/-- The parts of a tree that a shape looks at. A record may be written as the list of its members
in their order. -/
def Tree.shaped? (room : Nat) (shape : Shape) (t : Tree) : Option Json :=
  match t, shape with
  | .arr items, .list item =>
    match room with
    | 0 => none
    | room + 1 => (Tree.shapedItems? room item items).map .arr
  | .arr items, .record members _ =>
    match room with
    | 0 => none
    | room + 1 => (Tree.shapedPlaces? room (members.map (·.2)) items).map .arr
  | .obj members, .record known isOpen =>
    match room with
    | 0 => none
    | room + 1 => (Tree.shapedMembers? room known isOpen members).map .obj
  | t, _ => Tree.value? room t

def Tree.shapedItems? (room : Nat) (shape : Shape) : List Tree → Option (List Json)
  | [] => some []
  | t :: rest => do
    return (← Tree.shaped? room shape t) :: (← Tree.shapedItems? room shape rest)

def Tree.shapedPlaces? (room : Nat) (shapes : List Shape) : List Tree → Option (List Json)
  | [] => some []
  | t :: rest => do
    return (← Tree.shaped? room (shapes.headD .free) t) ::
      (← Tree.shapedPlaces? room shapes.tail rest)

def Tree.shapedMembers? (room : Nat) (known : List (String × Shape)) (isOpen : Bool) :
    List (Option String × Tree) → Option (List (String × Json))
  | [] => some []
  | (name, t) :: rest => do
    let name ← name
    let others ← Tree.shapedMembers? room known isOpen rest
    match known.lookup name with
    | some shape => return (name, ← Tree.shaped? room shape t) :: others
    | none => if isOpen then return (name, ← Tree.value? room t) :: others else return others

end

def ofChars? (cs : List Char) : Option Json := (Tree.ofChars? cs).bind (Tree.value? depthLimit)

def ofText? (s : String) : Option Json := ofChars? s.toList

def shapedText? (shape : Shape) (s : String) : Option Json :=
  (Tree.ofChars? s.toList).bind (Tree.shaped? depthLimit shape)

end Stepwise.Json
