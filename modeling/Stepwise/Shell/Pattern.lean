/-!
Patterns of the shell: `*` stands for any text, `?` for any character, and brackets for one
character out of a set. Quoted characters stand for themselves.
-/

namespace Stepwise.Shell

namespace Pattern

/-- A character, and whether it is quoted. -/
abbrev Symbol := Char × Bool

inductive Item where
  | char (c : Char)
  | any
  | run
  | set (isNegated : Bool) (ranges : List (Char × Char))

abbrev Range := Char × Char

def classes : List (String × List Range) := [
  ("alpha", [('a', 'z'), ('A', 'Z')]),
  ("digit", [('0', '9')]),
  ("alnum", [('a', 'z'), ('A', 'Z'), ('0', '9')]),
  ("upper", [('A', 'Z')]),
  ("lower", [('a', 'z')]),
  ("space", [('\t', '\r'), (' ', ' ')]),
  ("blank", [('\t', '\t'), (' ', ' ')]),
  ("punct", [('!', '/'), (':', '@'), ('[', '\x60'), ('\x7b', '~')]),
  ("xdigit", [('0', '9'), ('a', 'f'), ('A', 'F')]),
  ("cntrl", [('\x00', '\x1f'), ('\x7f', '\x7f')]),
  ("print", [(' ', '~')]),
  ("graph", [('!', '~')])]

def className? (done : List Char) : List Symbol → Option (String × List Symbol)
  | (':', false) :: (']', false) :: rest => some (String.ofList done.reverse, rest)
  | (c, _) :: rest => if c.isAlpha then className? (c :: done) rest else none
  | [] => none

def ranges? (fuel : Nat) (isFirst : Bool) (done : List Range) (s : List Symbol) :
    Option (List Range × List Symbol) :=
  match fuel with
  | 0 => none
  | fuel + 1 =>
    match s with
    | [] => none
    | (c, isQuoted) :: rest =>
      if c = ']' ∧ ¬isQuoted ∧ ¬isFirst then some (done, rest)
      else
        let plain : Option (List Range × List Symbol) :=
          match rest with
          | ('-', false) :: (d, q) :: after =>
            if d = ']' ∧ ¬q then ranges? fuel false ((c, c) :: done) rest
            else ranges? fuel false ((c, d) :: done) after
          | rest => ranges? fuel false ((c, c) :: done) rest
        match c, isQuoted, rest with
        | '[', false, (':', false) :: after =>
          match className? [] after with
          | some (name, after) => ranges? fuel false ((classes.lookup name).getD [] ++ done) after
          | none => plain
        | _, _, _ => plain

/-- The set after an opening bracket, unless the bracket is never closed. -/
def set? (s : List Symbol) : Option (Item × List Symbol) :=
  let (isNegated, s) : Bool × List Symbol :=
    match s with
    | ('!', false) :: rest => (true, rest)
    | ('^', false) :: rest => (true, rest)
    | s => (false, s)
  (ranges? (s.length + 1) true [] s).map fun (ranges, rest) => (.set isNegated ranges, rest)

def itemsFuel : Nat → List Symbol → List Item
  | 0, _ | _, [] => []
  | fuel + 1, (c, true) :: rest => .char c :: itemsFuel fuel rest
  | fuel + 1, ('*', false) :: rest => .run :: itemsFuel fuel rest
  | fuel + 1, ('?', false) :: rest => .any :: itemsFuel fuel rest
  | fuel + 1, ('[', false) :: rest =>
    match set? rest with
    | some (item, rest) => item :: itemsFuel fuel rest
    | none => .char '[' :: itemsFuel fuel rest
  | fuel + 1, ('\\', false) :: (c, _) :: rest => .char c :: itemsFuel fuel rest
  | fuel + 1, (c, false) :: rest => .char c :: itemsFuel fuel rest

def items (s : List Symbol) : List Item := itemsFuel s.length s

def Item.covers (item : Item) (c : Char) : Bool :=
  match item with
  | char d => c == d
  | any | run => true
  | set isNegated ranges => (ranges.any fun r => r.1 ≤ c && c ≤ r.2) != isNegated

def tails : List Char → List (List Char)
  | [] => [[]]
  | c :: rest => (c :: rest) :: tails rest

def Item.matchAll : List Item → List Char → Bool
  | [], cs => cs.isEmpty
  | run :: rest, cs => (tails cs).any (matchAll rest)
  | item :: rest, c :: cs => item.covers c && matchAll rest cs
  | _ :: _, [] => false

def isMatch (pattern : List Symbol) (text : List Char) : Bool := Item.matchAll (items pattern) text

def isPattern (s : List Symbol) : Bool :=
  s.any fun (c, isQuoted) => !isQuoted && (c = '*' || c = '?' || c = '[')

def strip (fromEnd longest : Bool) (pattern : List Symbol) (text : List Char) : List Char :=
  let pattern := items pattern
  let lengths := List.range (text.length + 1)
  let lengths := if longest then lengths.reverse else lengths
  let matched :=
    lengths.find? fun n =>
      Item.matchAll pattern (if fromEnd then text.drop (text.length - n) else text.take n)
  match matched with
  | none => text
  | some n => if fromEnd then text.take (text.length - n) else text.drop n

end Pattern

end Stepwise.Shell
