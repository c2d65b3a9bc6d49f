import Stepwise.Table
/-!
Arithmetic of the shell, on signed 64-bit numbers that wrap. Variables are read when they are met,
and assignments take place in the order of evaluation; the side of a condition that is not needed
is not evaluated.
-/

namespace Stepwise.Shell

inductive BinaryOp where
  | mul | div | mod | add | sub | shl | shr | lt | le | gt | ge | eq | ne | band | bxor | bor
  deriving DecidableEq

inductive UnaryOp where
  | plus | minus | not | complement
  deriving DecidableEq

inductive Arith where
  | num (value : Int64)
  | var (name : String)
  | unary (op : UnaryOp) (body : Arith)
  | binary (op : BinaryOp) (left right : Arith)
  | both (left right : Arith)
  | either (left right : Arith)
  | cond (test onTrue onFalse : Arith)
  | assign (name : String) (op : Option BinaryOp) (value : Arith)

inductive ArithError where
  | malformed
  | divisionByZero
  | badNumber (text : String)

def truth (b : Bool) : Int64 := if b then 1 else 0

def BinaryOp.apply (op : BinaryOp) (a b : Int64) : Except ArithError Int64 :=
  match op with
  | .mul => .ok (a * b)
  | .div => if b = 0 then .error .divisionByZero else .ok (a / b)
  | .mod => if b = 0 then .error .divisionByZero else .ok (a % b)
  | .add => .ok (a + b)
  | .sub => .ok (a - b)
  | .shl => .ok (a <<< b)
  | .shr => .ok (a >>> b)
  | .lt => .ok (truth (a < b))
  | .le => .ok (truth (a ≤ b))
  | .gt => .ok (truth (b < a))
  | .ge => .ok (truth (b ≤ a))
  | .eq => .ok (truth (a == b))
  | .ne => .ok (truth (a != b))
  | .band => .ok (a &&& b)
  | .bxor => .ok (a ^^^ b)
  | .bor => .ok (a ||| b)

def UnaryOp.apply (op : UnaryOp) (a : Int64) : Int64 :=
  match op with
  | .plus => a
  | .minus => -a
  | .not => truth (a == 0)
  | .complement => ~~~a

namespace Arith

def digits (base : Nat) (cs : List Char) : List Nat × List Char :=
  let value (c : Char) : Nat :=
    if c.isDigit then c.toNat - 48
    else if 'a' ≤ c ∧ c ≤ 'f' then c.toNat - 87
    else if 'A' ≤ c ∧ c ≤ 'F' then c.toNat - 55
    else 99
  let run := cs.takeWhile fun c => value c < base
  (run.map value, cs.drop run.length)

def ofDigits (base : Nat) (ds : List Nat) : Nat := ds.foldl (fun n d => base * n + d) 0

/-- A number without a sign: hexadecimal after `0x`, octal after `0`, and otherwise decimal. -/
def natural? (cs : List Char) : Option (Nat × List Char) :=
  match cs with
  | '0' :: x :: rest =>
    if x = 'x' ∨ x = 'X' then
      match digits 16 rest with
      | ([], _) => some (0, x :: rest)
      | (ds, rest) => some (ofDigits 16 ds, rest)
    else
      let (ds, rest) := digits 8 ('0' :: x :: rest)
      some (ofDigits 8 ds, rest)
  | cs =>
    match digits 10 cs with
    | ([], _) => none
    | (ds, rest) => some (ofDigits 10 ds, rest)

def isBlank (c : Char) : Bool := c = ' ' || '\t' ≤ c && c ≤ '\r'

def skipBlanks (cs : List Char) : List Char := cs.dropWhile isBlank

def signed? (cs : List Char) : Option (Int × List Char) :=
  let (negative, cs) : Bool × List Char :=
    match skipBlanks cs with
    | '-' :: rest => (true, rest)
    | '+' :: rest => (false, rest)
    | cs => (false, cs)
  (natural? cs).map fun (n, rest) =>
    (if negative then -(min n (Nat.pow 2 63) : Int) else min n (Nat.pow 2 63 - 1), rest)

/-- Operators by how tightly they bind, the loosest first. Longer ones stand before those that
they begin with. -/
def levels : List (List (List Char × BinaryOp)) := [
  [(['|'], .bor)],
  [(['^'], .bxor)],
  [(['&'], .band)],
  [(['=', '='], .eq), (['!', '='], .ne)],
  [(['<', '='], .le), (['>', '='], .ge), (['<'], .lt), (['>'], .gt)],
  [(['<', '<'], .shl), (['>', '>'], .shr)],
  [(['+'], .add), (['-'], .sub)],
  [(['*'], .mul), (['/'], .div), (['%'], .mod)]]

/-- What may not follow an operator, because the two together are another one. -/
def collides (op : BinaryOp) (rest : List Char) : Bool :=
  match op, rest with
  | .band, '&' :: _ => true
  | .bor, '|' :: _ => true
  | .lt, '<' :: _ => true
  | .gt, '>' :: _ => true
  | .eq, _ | .ne, _ | .le, _ | .ge, _ | .lt, _ | .gt, _ => false
  | _, '=' :: _ => true
  | _, _ => false

def operator? (ops : List (List Char × BinaryOp)) (cs : List Char) :
    Option (BinaryOp × List Char) :=
  ops.findSome? fun (text, op) =>
    if text.isPrefixOf cs ∧ !collides op (cs.drop text.length) then some (op, cs.drop text.length)
    else none

def assignment? : List Char → Option (Option BinaryOp × List Char)
  | '=' :: '=' :: _ => none
  | '=' :: rest => some (none, rest)
  | '+' :: '=' :: rest => some (some .add, rest)
  | '-' :: '=' :: rest => some (some .sub, rest)
  | '*' :: '=' :: rest => some (some .mul, rest)
  | '/' :: '=' :: rest => some (some .div, rest)
  | '%' :: '=' :: rest => some (some .mod, rest)
  | '&' :: '=' :: rest => some (some .band, rest)
  | '^' :: '=' :: rest => some (some .bxor, rest)
  | '|' :: '=' :: rest => some (some .bor, rest)
  | '<' :: '<' :: '=' :: rest => some (some .shl, rest)
  | '>' :: '>' :: '=' :: rest => some (some .shr, rest)
  | _ => none

def isNameStart (c : Char) : Bool := c.isAlpha || c = '_'

def isNameChar (c : Char) : Bool := c.isAlphanum || c = '_'

mutual

def readAssignment (fuel : Nat) (cs : List Char) : Option (Arith × List Char) :=
  match fuel with
  | 0 => none
  | fuel + 1 =>
    let cs := skipBlanks cs
    let target? : Option (String × Option BinaryOp × List Char) :=
      match cs with
      | [] => none
      | c :: _ =>
        if isNameStart c then
          let name := cs.takeWhile isNameChar
          (assignment? (skipBlanks (cs.drop name.length))).map fun (op, rest) =>
            (String.ofList name, op, rest)
        else none
    match target? with
    | some (name, op, rest) => do
      let (value, rest) ← readAssignment fuel rest
      return (.assign name op value, rest)
    | none => readCond fuel cs

def readCond (fuel : Nat) (cs : List Char) : Option (Arith × List Char) :=
  match fuel with
  | 0 => none
  | fuel + 1 => do
    let (test, rest) ← readEither fuel cs
    match skipBlanks rest with
    | '?' :: rest =>
      let (onTrue, rest) ← readAssignment fuel rest
      match skipBlanks rest with
      | ':' :: rest =>
        let (onFalse, rest) ← readCond fuel rest
        return (.cond test onTrue onFalse, rest)
      | _ => none
    | rest => return (test, rest)

def readEither (fuel : Nat) (cs : List Char) : Option (Arith × List Char) :=
  match fuel with
  | 0 => none
  | fuel + 1 => do
    let (left, rest) ← readBoth fuel cs
    match skipBlanks rest with
    | '|' :: '|' :: rest =>
      let (right, rest) ← readEither fuel rest
      return (.either left right, rest)
    | rest => return (left, rest)

def readBoth (fuel : Nat) (cs : List Char) : Option (Arith × List Char) :=
  match fuel with
  | 0 => none
  | fuel + 1 => do
    let (left, rest) ← readLevel fuel levels cs
    match skipBlanks rest with
    | '&' :: '&' :: rest =>
      let (right, rest) ← readBoth fuel rest
      return (.both left right, rest)
    | rest => return (left, rest)

def readLevel (fuel : Nat) (ls : List (List (List Char × BinaryOp))) (cs : List Char) :
    Option (Arith × List Char) :=
  match fuel with
  | 0 => none
  | fuel + 1 =>
    match ls with
    | [] => readUnary fuel cs
    | ops :: tighter => do
      let (left, rest) ← readLevel fuel tighter cs
      readMore fuel ops tighter left rest

def readMore (fuel : Nat) (ops : List (List Char × BinaryOp))
    (tighter : List (List (List Char × BinaryOp))) (left : Arith) (cs : List Char) :
    Option (Arith × List Char) :=
  match fuel with
  | 0 => none
  | fuel + 1 =>
    match operator? ops (skipBlanks cs) with
    | some (op, rest) => do
      let (right, rest) ← readLevel fuel tighter rest
      readMore fuel ops tighter (.binary op left right) rest
    | none => some (left, cs)

def readUnary (fuel : Nat) (cs : List Char) : Option (Arith × List Char) :=
  match fuel with
  | 0 => none
  | fuel + 1 =>
    let unaryOf (op : UnaryOp) (rest : List Char) : Option (Arith × List Char) := do
      let (body, rest) ← readUnary fuel rest
      return (.unary op body, rest)
    match skipBlanks cs with
    | '+' :: rest => unaryOf .plus rest
    | '-' :: rest => unaryOf .minus rest
    | '!' :: rest => unaryOf .not rest
    | '~' :: rest => unaryOf .complement rest
    | '(' :: rest => do
      let (body, rest) ← readAssignment fuel rest
      match skipBlanks rest with
      | ')' :: rest => return (body, rest)
      | _ => none
    | [] => none
    | c :: rest =>
      if isNameStart c then
        let name := (c :: rest).takeWhile isNameChar
        some (.var (String.ofList name), (c :: rest).drop name.length)
      else do
        let (n, rest) ← natural? (c :: rest)
        return (.num (Int64.ofInt (min n (Nat.pow 2 63 - 1))), rest)

end

def ofChars? (cs : List Char) : Option Arith :=
  match readAssignment (16 * cs.length + 64) cs with
  | some (e, rest) => if (skipBlanks rest).isEmpty then some e else none
  | none => none

/-- The number that a variable's text is; a missing or empty one is zero. -/
def number (text : String) : Except ArithError Int64 :=
  if text.isEmpty then .ok 0
  else
    match signed? text.toList with
    | some (i, rest) =>
      if (skipBlanks rest).isEmpty then .ok (Int64.ofInt i) else .error (.badNumber text)
    | none => .error (.badNumber text)

/-- The value of an expression and the assignments made so far, the last one first. -/
def eval (lookup : String → String) (made : List (String × Int64)) :
    Arith → Except ArithError (Int64 × List (String × Int64))
  | num n => .ok (n, made)
  | var name => do
    match made.lookup name with
    | some n => return (n, made)
    | none => return (← number (lookup name), made)
  | unary op body => do
    let (a, made) ← eval lookup made body
    return (op.apply a, made)
  | binary op left right => do
    let (a, made) ← eval lookup made left
    let (b, made) ← eval lookup made right
    return (← op.apply a b, made)
  | both left right => do
    let (a, made) ← eval lookup made left
    if a = 0 then return (0, made)
    else
      let (b, made) ← eval lookup made right
      return (truth (b != 0), made)
  | either left right => do
    let (a, made) ← eval lookup made left
    if a ≠ 0 then return (1, made)
    else
      let (b, made) ← eval lookup made right
      return (truth (b != 0), made)
  | cond test onTrue onFalse => do
    let (a, made) ← eval lookup made test
    if a ≠ 0 then eval lookup made onTrue else eval lookup made onFalse
  | assign name op value => do
    let before ← match op with
      | none => pure 0
      | some _ =>
        match made.lookup name with
        | some n => pure n
        | none => number (lookup name)
    let (b, made) ← eval lookup made value
    let after ← match op with
      | none => pure b
      | some op => op.apply before b
    return (after, (name, after) :: made)

end Arith

end Stepwise.Shell
