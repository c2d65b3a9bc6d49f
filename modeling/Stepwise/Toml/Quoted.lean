import Stepwise.Json.Reader
/-!
Quoted texts of TOML: basic ones with escapes, literal ones without, and either kind over several
lines between three quotes. Reading takes a text from its first quote on; writing chooses the
plainest form that can hold the text.
-/

namespace Stepwise.Toml

def isPlain (c : Char) : Bool := c = '\t' || (0x20 ≤ c.toNat && c.toNat != 0x7F)

def isSpace (c : Char) : Bool := c = ' ' || c = '\t'

def skipSpace (cs : List Char) : List Char := cs.dropWhile isSpace

def lineBreak? : List Char → Option (List Char)
  | '\n' :: rest => some rest
  | '\r' :: '\n' :: rest => some rest
  | _ => none

def skipBlank : List Char → List Char
  | '\r' :: '\n' :: rest => skipBlank rest
  | c :: rest => if isSpace c || c = '\n' then skipBlank rest else c :: rest
  | [] => []

namespace Quoted

def charOf? (n : Nat) : Option Char :=
  if n < 0xD800 ∨ (0xE000 ≤ n ∧ n < 0x110000) then some (Char.ofNat n) else none

def escape? : List Char → Option (Char × List Char)
  | 'u' :: a :: b :: c :: d :: rest => do
    return (← charOf? (← Json.hex4? a b c d), rest)
  | 'U' :: a :: b :: c :: d :: e :: f :: g :: h :: rest => do
    return (← charOf? ((← Json.hex4? a b c d) * 0x10000 + (← Json.hex4? e f g h)), rest)
  | 'b' :: rest => some ('\x08', rest)
  | 't' :: rest => some ('\t', rest)
  | 'n' :: rest => some ('\n', rest)
  | 'f' :: rest => some ('\x0c', rest)
  | 'r' :: rest => some ('\r', rest)
  | '"' :: rest => some ('"', rest)
  | '\\' :: rest => some ('\\', rest)
  | _ => none

/-- The text up to the closing quote, with the characters so far in reverse. The fuel bounds the
number of characters. -/
def readShort (quote : Char) (escapes : Bool) : Nat → List Char → List Char →
    Option (String × List Char)
  | 0, _, _ => none
  | _, _, [] => none
  | fuel + 1, done, c :: rest =>
    if c = quote then some (String.ofList done.reverse, rest)
    else if escapes ∧ c = '\\' then
      match escape? rest with
      | some (e, rest) => readShort quote escapes fuel (e :: done) rest
      | none => none
    else if isPlain c then readShort quote escapes fuel (c :: done) rest
    else none

/-- The text up to three closing quotes; up to two more before them belong to the text. A backslash
at the end of a line takes away the blanks that follow. -/
def readLong (quote : Char) (escapes : Bool) : Nat → List Char → List Char →
    Option (String × List Char)
  | 0, _, _ => none
  | _, _, [] => none
  | fuel + 1, done, c :: rest =>
    if c = quote then
      let run := ((c :: rest).takeWhile (· = quote)).length
      let after := (c :: rest).drop run
      if run ≤ 2 then readLong quote escapes fuel (List.replicate run quote ++ done) after
      else if run ≤ 5 then
        some (String.ofList (List.replicate (run - 3) quote ++ done).reverse, after)
      else none
    else if escapes ∧ c = '\\' then
      match lineBreak? (skipSpace rest) with
      | some rest => readLong quote escapes fuel done (skipBlank rest)
      | none =>
        match escape? rest with
        | some (e, rest) => readLong quote escapes fuel (e :: done) rest
        | none => none
    else
      match lineBreak? (c :: rest) with
      | some rest => readLong quote escapes fuel ('\n' :: done) rest
      | none => if isPlain c then readLong quote escapes fuel (c :: done) rest else none

def readLine : List Char → Option (String × List Char)
  | '"' :: rest => readShort '"' true (rest.length + 1) [] rest
  | '\x27' :: rest => readShort '\x27' false (rest.length + 1) [] rest
  | _ => none

/-- A text in any of the four forms. A line break right after three quotes is not part of it. -/
def read (cs : List Char) : Option (String × List Char) :=
  let long quote escapes rest :=
    readLong quote escapes (rest.length + 1) [] ((lineBreak? rest).getD rest)
  match cs with
  | '"' :: '"' :: '"' :: rest => long '"' true rest
  | '\x27' :: '\x27' :: '\x27' :: rest => long '\x27' false rest
  | cs => readLine cs

inductive Form where
  | basic
  | literal
  | longBasic
  | longLiteral
  deriving DecidableEq, Repr

def longestRun (c : Char) (cs : List Char) : Nat :=
  (cs.foldl (fun (longest, current) d =>
    let current := if d = c then current + 1 else 0
    (max longest current, current)) (0, 0)).1

def needsEscape (c : Char) : Bool := !isPlain c && c != '\n'

/-- The first form that holds a text unchanged, of the basic, the literal, and then those of
several lines; where there is none, a basic one with escapes. -/
def formOf (cs : List Char) : Form :=
  let breaks := cs.contains '\n'
  let coded := cs.any needsEscape
  let slashed := cs.contains '\\'
  let double := longestRun '"' cs
  let single := longestRun '\x27' cs
  if ¬ coded ∧ ¬ slashed ∧ double = 0 ∧ ¬ breaks then .basic
  else if ¬ coded ∧ single = 0 ∧ ¬ breaks then .literal
  else if ¬ coded ∧ ¬ slashed ∧ double ≤ 2 then .longBasic
  else if ¬ coded ∧ single ≤ 2 then .longLiteral
  else if breaks then .longBasic
  else .basic

def upperHex (n : Nat) : Char := if n < 10 then Char.ofNat (48 + n) else Char.ofNat (55 + n)

def coded (c : Char) : List Char :=
  if c = '\\' then ['\\', '\\']
  else if c = '\x08' then ['\\', 'b']
  else if c = '\t' then ['\\', 't']
  else if c = '\n' then ['\\', 'n']
  else if c = '\x0c' then ['\\', 'f']
  else if c = '\r' then ['\\', 'r']
  else if needsEscape c then
    ['\\', 'u', '0', '0', upperHex (c.toNat / 16), upperHex (c.toNat % 16)]
  else [c]

/-- The inside of a basic text. Line breaks stay in one of several lines, and of quotes in a row
no more than `allowed` come without a backslash; `run` is how many have just come. -/
def inside (long : Bool) (allowed run : Nat) : List Char → List Char
  | [] => []
  | c :: rest =>
    if c = '"' then
      if run < allowed then '"' :: inside long allowed (run + 1) rest
      else '\\' :: '"' :: inside long allowed 0 rest
    else if long ∧ c = '\n' then '\n' :: inside long allowed 0 rest
    else coded c ++ inside long allowed 0 rest

def writeChars (cs : List Char) : List Char :=
  let lead := if cs.contains '\n' then ['\n'] else []
  match formOf cs with
  | .basic => '"' :: inside false 0 0 cs ++ ['"']
  | .literal => '\x27' :: cs ++ ['\x27']
  | .longBasic => ['"', '"', '"'] ++ lead ++ inside true 2 0 cs ++ ['"', '"', '"']
  | .longLiteral =>
    ['\x27', '\x27', '\x27'] ++ lead ++ cs ++ ['\x27', '\x27', '\x27']

def write (s : String) : String := String.ofList (writeChars s.toList)

end Quoted

end Stepwise.Toml
