import Stepwise.Shell.Arithmetic
import Stepwise.Shell.Env
import Stepwise.Shell.Pattern
/-!
Expanding words. The output of a command inside a word has to be known beforehand: expanding takes
a list of such outputs, and when it comes to one that is not there it stops and names the command.
It is then begun again with one output more, from the state in which it began the first time, so
that no change of state happens twice.
-/

namespace Stepwise.Shell

/-- What a command inside a word wrote, without the line ends at its end, and its status. -/
structure Answer where
  output : String
  status : Nat

inductive Halt where
  | needs (body : Node)
  | failed (message : String)

structure Expansion where
  env : Env
  answers : List Answer
  status : Option Nat

abbrev Expand := StateT Expansion (Except Halt)

/-- A character of an expanded word, or what stands between characters. -/
inductive Glyph where
  | char (c : Char) (isQuoted splits : Bool)
  /-- Makes a field even if nothing else does. -/
  | mark
  /-- Ends a field. -/
  | gap

namespace Glyph

def ofText (isQuoted : Bool) (text : String) : List Glyph :=
  if isQuoted then mark :: text.toList.map fun c => char c true false
  else text.toList.map fun c => char c false true

def text (glyphs : List Glyph) : String :=
  String.ofList (glyphs.filterMap fun
    | char c _ _ => some c
    | mark => none
    | gap => some ' ')

def symbols (glyphs : List Glyph) : List Pattern.Symbol :=
  glyphs.filterMap fun
    | char c q _ => some (c, q)
    | mark => none
    | gap => some (' ', true)

/-- The fields being made of a word: those before, the current one, both in reverse. -/
structure Splitting where
  done : List (List Pattern.Symbol)
  current : Option (List Pattern.Symbol)
  /-- Whether blanks ended the field before, so that a separator after them ends nothing more. -/
  afterBlank : Bool

namespace Splitting

def close (s : Splitting) : Splitting :=
  match s.current with
  | some field => { s with done := field.reverse :: s.done, current := none }
  | none => s

def isBlank (c : Char) : Bool := c = ' ' || c = '\t' || c = '\n'

def step (separators : List Char) (s : Splitting) : Glyph → Splitting
  | mark => { s with current := some (s.current.getD []), afterBlank := false }
  | gap => { s.close with afterBlank := false }
  | char c isQuoted splits =>
    if splits ∧ separators.contains c then
      if isBlank c then
        if s.current.isSome then { s.close with afterBlank := true } else s
      else if s.current.isNone ∧ s.afterBlank then { s with afterBlank := false }
      else { { s with current := some (s.current.getD []) }.close with afterBlank := false }
    else { s with current := some ((c, isQuoted) :: s.current.getD []), afterBlank := false }

end Splitting

def fields (separators : List Char) (glyphs : List Glyph) : List (List Pattern.Symbol) :=
  (glyphs.foldl (Splitting.step separators) ⟨[], none, false⟩).close.done.reverse

end Glyph

namespace Expand

def fail (message : String) : Expand α := throw (.failed message)

def env : Expand Env := return (← get).env

def setVar (name value : String) : Expand Unit := do
  let s ← get
  if s.env.isReadonly name then fail (name ++ ": is read only")
  else set { s with env := s.env.set name value }

def param (name : String) (isQuoted : Bool) : Expand (Option (List Glyph)) := do
  let e ← env
  if name = "@" ∨ name = "*" ∧ !isQuoted then
    return some ((e.params.map (Glyph.ofText isQuoted)).intersperse [.gap]).flatten
  else if name = "*" then
    let separator :=
      match e.value? "IFS" with
      | some s => String.ofList (s.toList.take 1)
      | none => " "
    return some (Glyph.ofText true (separator.intercalate e.params))
  else return (e.param? name).map (Glyph.ofText isQuoted)

def required (name : String) (isQuoted : Bool) : Expand (List Glyph) := do
  match ← param name isQuoted with
  | some glyphs => return glyphs
  | none =>
    if (← env).hasOption 'u' then fail (name ++ ": parameter not set")
    else return if isQuoted then [.mark] else []

def arithmetic (text : String) : Expand String := do
  match Arith.ofChars? text.toList with
  | none => fail ("arithmetic expression: expecting primary: \"" ++ text ++ "\"")
  | some e =>
    let before ← env
    match e.eval before.value [] with
    | .error .divisionByZero => fail ("arithmetic expression: division by zero: \"" ++ text ++ "\"")
    | .error (.badNumber t) => fail ("Illegal number: " ++ t)
    | .error .malformed => fail ("arithmetic expression: \"" ++ text ++ "\"")
    | .ok (n, made) =>
      made.reverse.forM fun (name, v) => setVar name (toString v.toInt)
      return toString n.toInt

def answer (body : Node) : Expand String := do
  let s ← get
  match s.answers with
  | [] => throw (.needs body)
  | a :: rest =>
    set { s with answers := rest, status := some a.status }
    return a.output

/-- Whether a parameter's value is to be used rather than the word beside it. -/
def isUsable (orEmpty : Bool) (glyphs : Option (List Glyph)) : Bool :=
  match glyphs with
  | none => false
  | some gs => !orEmpty || !(Glyph.text gs).isEmpty

mutual

/-- The glyphs of parts; unquoted text is split only where an expansion has brought it in. -/
def parts (isInner : Bool) : List Part → Expand (List Glyph)
  | [] => return []
  | p :: rest => do
    let first ← part isInner p
    return first ++ (← parts isInner rest)

def part (isInner : Bool) : Part → Expand (List Glyph)
  | .text s true => return Glyph.ofText true s
  | .text s false => return s.toList.map fun c => .char c false isInner
  | .param name f isQuoted => form name isQuoted f
  | .output body isQuoted => return Glyph.ofText isQuoted (← answer body)
  | .arithmetic expression isQuoted => do
    let glyphs ← parts false expression
    return Glyph.ofText isQuoted (← arithmetic (Glyph.text glyphs))

def form (name : String) (isQuoted : Bool) : Form → Expand (List Glyph)
  | .value => required name isQuoted
  | .length => do
    let glyphs ← required name false
    return Glyph.ofText isQuoted (toString (Glyph.text glyphs).length)
  | .default orEmpty word => do
    let value ← param name isQuoted
    if isUsable orEmpty value then return value.getD []
    else
      let glyphs ← parts (!isQuoted) word
      return if isQuoted then .mark :: glyphs else glyphs
  | .assign orEmpty word => do
    let value ← param name isQuoted
    if isUsable orEmpty value then return value.getD []
    else
      let text := Glyph.text (← parts false word)
      setVar name text
      return Glyph.ofText isQuoted text
  | .require orEmpty word => do
    let value ← param name isQuoted
    if isUsable orEmpty value then return value.getD []
    else
      let text := Glyph.text (← parts false word)
      fail (name ++ ": " ++ if text.isEmpty then "parameter not set" else text)
  | .alternative orEmpty word => do
    let value ← param name isQuoted
    if isUsable orEmpty value then
      let glyphs ← parts (!isQuoted) word
      return if isQuoted then .mark :: glyphs else glyphs
    else return if isQuoted then [.mark] else []
  | .strip fromEnd longest pattern => do
    let glyphs ← required name isQuoted
    let pattern := Glyph.symbols (← parts false pattern)
    let stripped := Pattern.strip fromEnd longest pattern (Glyph.text glyphs).toList
    return Glyph.ofText isQuoted (String.ofList stripped)

end

def tilde (e : Env) : Word → Word
  | .text s false :: rest =>
    match s.toList, e.value? "HOME" with
    | '~' :: more, some home =>
      if more.head? = some '/' ∨ more.isEmpty ∧ rest.isEmpty then
        .text home true :: .text (String.ofList more) false :: rest
      else .text s false :: rest
    | _, _ => .text s false :: rest
  | word => word

def text (word : Word) : Expand String := do
  return Glyph.text (← parts false (tilde (← env) word))

def pattern (word : Word) : Expand (List Pattern.Symbol) := do
  return Glyph.symbols (← parts false (tilde (← env) word))

/-- The names in a directory that a field stands for, or else its characters. -/
def names (listing : List String) (field : List Pattern.Symbol) : List String :=
  let plain := String.ofList (field.map (·.1))
  if Pattern.isPattern field ∧ !plain.toList.contains '/' then
    let isHidden (name : String) : Bool := name.toList.head? = some '.'
    let found := listing.filter fun n =>
      Pattern.isMatch field n.toList && (!isHidden n || isHidden plain)
    if found.isEmpty then [plain] else found
  else [plain]

def words (listing : List String) (ws : List Word) : Expand (List String) := do
  let fieldsOf (w : Word) : Expand (List String) := do
    let glyphs ← parts false (tilde (← env) w)
    let e ← env
    let fields := Glyph.fields e.separators glyphs
    return if e.hasOption 'f' then fields.map fun f => String.ofList (f.map (·.1))
      else fields.flatMap (names listing)
  return (← ws.mapM fieldsOf).flatten

end Expand

inductive Opening where
  | input (fd : Nat) (path : String)
  | output (fd : Nat) (path : String) (mode : OutputMode)
  | both (fd : Nat) (path : String)
  | duplicate (fd : Nat) (target : String)
  | here (fd : Nat) (body : String)

namespace Expand

def opening : Redirect → Expand Opening
  | .input fd path => return .input fd (← text path)
  | .output fd path mode => return .output fd (← text path) mode
  | .both fd path => return .both fd (← text path)
  | .duplicate fd target => return .duplicate fd (← text target)
  | .here fd body => return .here fd (Glyph.text (← parts false body))

/-- Values of assignments, each of which is seen by those after it. -/
def assigns (l : List (String × Word)) : Expand (List (String × String)) :=
  l.mapM fun (name, word) => do
    let value ← text word
    setVar name value
    return (name, value)

def clause (word : Word) (clauses : List (List Word × Node)) : Expand (Option Node) := do
  let subject := (← text word).toList
  let rec anyMatches : List Word → Expand Bool
    | [] => return false
    | w :: rest => do
      if Pattern.isMatch (← pattern w) subject then return true else anyMatches rest
  let rec find : List (List Word × Node) → Expand (Option Node)
    | [] => return none
    | (patterns, body) :: rest => do
      if ← anyMatches patterns then return some body else find rest
  find clauses

end Expand

end Stepwise.Shell
