import Stepwise.Text.Word
import Stepwise.World
/-!
Files of environment variables. A line sets one variable, perhaps after the word `export`; a value
may be quoted, also over several lines, and refer to variables with a dollar. What the environment
has already, a file does not change. The first line that is wrong ends the reading of a file.
-/

namespace Stepwise.EnvFile

inductive Place where
  | plain
  | blank
  | escaped
  | quoted (quote : Char)
  | quotedEscaped (quote : Char)
  deriving DecidableEq, Repr

/-- The place after a character, or `none` where a comment begins. -/
def Place.next (p : Place) (c : Char) : Option Place :=
  let mark : Place :=
    if c = '\\' then .escaped else if c = '"' ∨ c = '\x27' then .quoted c else .plain
  match p with
  | plain => some (if Text.isBlank c ∧ c ≠ '\n' ∧ c ≠ '\r' then .blank else mark)
  | blank => if c = '#' then none else some mark
  | escaped => some .plain
  | quoted q => some (if c = '\\' then .quotedEscaped q else if c = q then .plain else .quoted q)
  | quotedEscaped q => some (.quoted q)

/-- Where the scan of a line ends, and the part of the line before a comment. -/
def Place.through (p : Place) : List Char → Option Place × List Char
  | [] => (some p, [])
  | c :: rest =>
    match p.next c with
    | none => (none, [])
    | some p =>
      let (place, kept) := p.through rest
      (place, c :: kept)

def physicalLines (cs : List Char) : List (List Char) :=
  let (done, last) := cs.foldr (fun c (lines, current) =>
    if c = '\n' then (if current.isEmpty then lines else current :: lines, ['\n'])
    else (lines, c :: current)) (([], []) : List (List Char) × List Char)
  if last.isEmpty then done else last :: done

/-- Lines taken together where a quoted text goes on, with their ends; `none` stands for one that
has no end. -/
def logicalLines (before : List Char) (p : Place) : List (List Char) → List (Option (List Char))
  | [] => if p = .plain then [] else [none]
  | line :: rest =>
    if (Text.trimStart (before ++ line)).head? = some '#' then
      some [] :: logicalLines [] .plain rest
    else
      match p.through line with
      | (none, kept) => some (before ++ kept) :: logicalLines [] .plain rest
      | (some .plain, _) => some (before ++ line) :: logicalLines [] .plain rest
      | (some p, _) => logicalLines (before ++ line) p rest

structure Value where
  quote : Option Char
  isEscaped : Bool
  /-- Only a comment may follow. -/
  isOver : Bool
  /-- A reference after its dollar: whether it has a brace, and its name in reverse. -/
  reference : Option (Bool × List Char)
  done : List Char

def isNameChar (c : Char) : Bool := c.isAlphanum || (0x80 ≤ c.toNat && Text.isWord c)

section

variable (value : String → String)

def Value.push (v : Value) (c : Char) : Value := { v with done := c :: v.done }

def Value.refer (v : Value) (name : List Char) : Value :=
  { v with
    done := (value (String.ofList name.reverse)).toList.reverse ++ v.done, reference := none }

def Value.stepReference (v : Value) (braced : Bool) (name : List Char) (c : Char) : Value :=
  if isNameChar c then { v with reference := some (braced, c :: name) }
  else if braced then
    if c = '\x7d' then v.refer value name else { v with reference := some (true, c :: name) }
  else if c = '\x7b' ∧ name.isEmpty then { v with reference := some (true, []) }
  else if c = '$' then { v.refer value name with reference := some (false, []) }
  else (v.refer value name).push c

def unescaped? (c : Char) : Option Char :=
  if c = 'n' then some '\n'
  else if c = '\\' ∨ c = '\x27' ∨ c = '"' ∨ c = '$' ∨ c = ' ' then some c
  else none

def Value.step? (v : Value) (c : Char) : Option Value :=
  if v.isEscaped then (unescaped? c).map fun e => { v.push e with isEscaped := false }
  else if v.quote = some '\x27' then
    some (if c = '\x27' then { v with quote := none } else v.push c)
  else
    match v.reference with
    | some (braced, name) => some (v.stepReference value braced name c)
    | none =>
      some (
        if c = '$' then { v with reference := some (false, []) }
        else if c = '\\' then { v with isEscaped := true }
        else if c = '"' then { v with quote := if v.quote = some '"' then none else some '"' }
        else if v.quote = some '"' then v.push c
        else if c = '\x27' then { v with quote := some c }
        else if c = ' ' ∨ c = '\t' then { v with isOver := true }
        else v.push c)

def Value.finish? (v : Value) : Option String :=
  match v.quote, v.reference with
  | some _, _ => none
  | none, some (true, _) => none
  | none, some (false, name) => some (String.ofList (v.refer value name).done.reverse)
  | none, none => some (String.ofList v.done.reverse)

def Value.read? (v : Value) : List Char → Option String
  | [] => v.finish? value
  | c :: rest =>
    if v.isOver then
      if c = ' ' ∨ c = '\t' then v.read? rest
      else if c = '#' then v.finish? value
      else none
    else (v.step? value c).bind fun v => v.read? rest

def isKeyChar (c : Char) : Bool := c.isAlphanum || c = '_' || c = '.'

def readName? (cs : List Char) : Option (String × List Char) :=
  match cs with
  | [] => none
  | c :: _ =>
    if c.isAlpha ∨ c = '_' then
      some (String.ofList (cs.takeWhile isKeyChar), Text.trimStart (cs.dropWhile isKeyChar))
    else none

def readKey? (cs : List Char) : Option (String × List Char) := do
  let (name, rest) ← readName? cs
  match rest with
  | '=' :: rest => some (name, Text.trimStart rest)
  | rest =>
    if name = "export" then
      match ← readName? rest with
      | (name, '=' :: rest) => some (name, Text.trimStart rest)
      | _ => none
    else none

/-- The variable that a line sets; outside of the option, whether the line is wrong. -/
def readLine (line : List Char) : Except Unit (Option (String × String)) :=
  match Text.trimChars line with
  | [] => .ok none
  | '#' :: _ => .ok none
  | cs =>
    match readKey? cs with
    | none => .error ()
    | some (name, []) => .ok (some (name, ""))
    | some (name, '#' :: _) => .ok (some (name, ""))
    | some (name, cs) =>
      match (⟨none, false, false, none, []⟩ : Value).read? value cs with
      | some text => .ok (some (name, text))
      | none => .error ()

end

/-- The value of a name while a file is read: that of the environment, or of an earlier line. -/
def valueOf (environment earlier : Table String) (name : String) : String :=
  (environment.get? name).getD ((earlier.get? name).getD "")

/-- The environment after lines, of which `earlier` remembers all that they have set. -/
def addLines (environment earlier : Table String) : List (Option (List Char)) → Table String
  | [] => environment
  | none :: _ => environment
  | some line :: rest =>
    match readLine (valueOf environment earlier) line with
    | .error () => environment
    | .ok none => addLines environment earlier rest
    | .ok (some (name, text)) =>
      addLines (if environment.contains name then environment else environment.insert name text)
        (earlier.insert name text) rest

def fileName : String := ".env"

def load (w : World) : World :=
  match w.read fileName with
  | .error _ => w
  | .ok text =>
    let cs := match text.toList with
      | '\ufeff' :: rest => rest
      | cs => cs
    { w with environment := addLines w.environment ∅ (logicalLines [] .plain (physicalLines cs)) }

end Stepwise.EnvFile
