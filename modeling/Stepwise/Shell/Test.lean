import Stepwise.Shell.Arithmetic
/-!
Conditions of the `test` command. What is known of files comes from outside, by the letter of the
question and the path.
-/

namespace Stepwise.Shell

namespace Test

inductive Unary where
  | nonempty
  | empty
  | file (question : Char)

inductive Binary where
  | same
  | differs
  | before
  | after
  | compare (holds : Int → Int → Bool)
  | newer
  | older
  | sameFile

def unary? (word : String) : Option Unary :=
  match word.toList with
  | ['-', 'n'] => some .nonempty
  | ['-', 'z'] => some .empty
  | ['-', c] => if "rwxefdcbpugksthLSOG".toList.contains c then some (.file c) else none
  | _ => none

def binary? (word : String) : Option Binary :=
  match word with
  | "=" => some .same
  | "!=" => some .differs
  | "<" => some .before
  | ">" => some .after
  | "-eq" => some (.compare fun a b => a == b)
  | "-ne" => some (.compare fun a b => a != b)
  | "-gt" => some (.compare fun a b => decide (b < a))
  | "-ge" => some (.compare fun a b => decide (b ≤ a))
  | "-lt" => some (.compare fun a b => decide (a < b))
  | "-le" => some (.compare fun a b => decide (a ≤ b))
  | "-nt" => some .newer
  | "-ot" => some .older
  | "-ef" => some .sameFile
  | _ => none

def integer? (text : String) : Option Int :=
  let (negative, cs) : Bool × List Char :=
    match Arith.skipBlanks text.toList with
    | '-' :: rest => (true, rest)
    | '+' :: rest => (false, rest)
    | cs => (false, cs)
  let ds := cs.takeWhile Char.isDigit
  if ds.isEmpty ∨ !(Arith.skipBlanks (cs.drop ds.length)).isEmpty then none
  else
    let n : Int := Arith.ofDigits 10 (ds.map fun d => d.toNat - 48)
    some (if negative then -n else n)

def Unary.holds (fileHolds : Char → String → Bool) (text : String) : Unary → Bool
  | nonempty => !text.isEmpty
  | empty => text.isEmpty
  | file question => fileHolds question text

def Binary.holds (fileHolds : Char → String → Bool) (a b : String) : Binary → Option Bool
  | same => some (a == b)
  | differs => some (a != b)
  | before => some (decide (a < b))
  | after => some (decide (b < a))
  | compare holds => do return holds (← integer? a) (← integer? b)
  | newer => some (fileHolds 'e' a && !fileHolds 'e' b)
  | older => some (fileHolds 'e' b && !fileHolds 'e' a)
  | sameFile => some (a == b && fileHolds 'e' a)

section

variable (fileHolds : Char → String → Bool)

mutual

def readOr (fuel : Nat) (words : List String) : Option (Bool × List String) :=
  match fuel with
  | 0 => none
  | fuel + 1 => do
    let (a, rest) ← readAnd fuel words
    match rest with
    | "-o" :: rest =>
      let (b, rest) ← readOr fuel rest
      return (a || b, rest)
    | rest => return (a, rest)

def readAnd (fuel : Nat) (words : List String) : Option (Bool × List String) :=
  match fuel with
  | 0 => none
  | fuel + 1 => do
    let (a, rest) ← readNot fuel words
    match rest with
    | "-a" :: rest =>
      let (b, rest) ← readAnd fuel rest
      return (a && b, rest)
    | rest => return (a, rest)

def readNot (fuel : Nat) (words : List String) : Option (Bool × List String) :=
  match fuel with
  | 0 => none
  | fuel + 1 =>
    match words with
    | a :: op :: b :: rest =>
      match binary? op with
      | some op => do return (← op.holds fileHolds a b, rest)
      | none => readPrefixed fuel (a :: op :: b :: rest)
    | words => readPrefixed fuel words

def readPrefixed (fuel : Nat) (words : List String) : Option (Bool × List String) :=
  match fuel with
  | 0 => none
  | fuel + 1 =>
    match words with
    | "!" :: next :: rest => do
      let (a, rest) ← readNot fuel (next :: rest)
      return (!a, rest)
    | "(" :: next :: rest => do
      let (a, rest) ← readOr fuel (next :: rest)
      match rest with
      | ")" :: rest => return (a, rest)
      | _ => none
    | op :: text :: rest =>
      match unary? op with
      | some op => some (op.holds fileHolds text, rest)
      | none => some (!op.isEmpty, text :: rest)
    | [text] => some (!text.isEmpty, [])
    | [] => some (false, [])

end

/-- Whether the words of a condition hold, unless they make none. -/
def eval (words : List String) : Option Bool :=
  let full (words : List String) : Option Bool :=
    match readOr fileHolds (8 * words.length + 16) words with
    | some (b, []) => some b
    | _ => none
  match words with
  | [] => some false
  | [text] => some (!text.isEmpty)
  | ["!", text] => some text.isEmpty
  | words => full words

end

end Test

end Stepwise.Shell
