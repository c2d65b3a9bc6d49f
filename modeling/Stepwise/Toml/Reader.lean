import Stepwise.Toml.Quoted
import Stepwise.Toml.Scalar
import Stepwise.Toml.Tree
/-!
Reading TOML texts. A text is a list of statements on lines of their own: headers of tables, headers
of rows of arrays of tables, and keys with values. Its value is a JSON one.
-/

namespace Stepwise.Toml

/-- How deep values may stand inside each other, and how many parts a key may have. -/
def depthLimit : Nat := 79

def isBare (c : Char) : Bool := c.isAlphanum || c = '_' || c = '-'

def skipComment? : List Char → Option (List Char)
  | '#' :: rest => some (rest.dropWhile isPlain)
  | cs => some cs

def endLine? (cs : List Char) : Option (List Char) := do
  match ← skipComment? (skipSpace cs) with
  | [] => some []
  | cs => lineBreak? cs

def skipFiller : Nat → List Char → Option (List Char)
  | 0, _ => none
  | fuel + 1, cs =>
    match skipSpace cs with
    | '#' :: rest => (lineBreak? (rest.dropWhile isPlain)).bind (skipFiller fuel)
    | '\n' :: rest => skipFiller fuel rest
    | '\r' :: '\n' :: rest => skipFiller fuel rest
    | '\r' :: _ => none
    | rest => some rest

def readName (cs : List Char) : Option (String × List Char) :=
  match cs with
  | '"' :: _ => Quoted.readLine cs
  | '\x27' :: _ => Quoted.readLine cs
  | cs =>
    match cs.takeWhile isBare with
    | [] => none
    | name => some (String.ofList name, cs.dropWhile isBare)

/-- The parts of a key up to its last dot, the part after it, and the text that follows without
leading spaces. -/
def readKey : Nat → List Char → Option ((List String × String) × List Char)
  | 0, _ => none
  | room + 1, cs =>
    match readName (skipSpace cs) with
    | none => none
    | some (name, rest) =>
      match skipSpace rest with
      | '.' :: rest =>
        (readKey room rest).map fun ((dots, last), rest) => ((name :: dots, last), rest)
      | rest => some (([], name), rest)

mutual

/-- The value at the front of a text. The fuel bounds the number of values; `room` is how many more
of them may stand inside each other. -/
def readValue (fuel room : Nat) (cs : List Char) : Option (Json × List Char) :=
  match fuel, room with
  | 0, _ => none
  | fuel + 1, room =>
    match cs with
    | '"' :: _ => (Quoted.read cs).map fun (s, rest) => (.str s, rest)
    | '\x27' :: _ => (Quoted.read cs).map fun (s, rest) => (.str s, rest)
    | '[' :: rest =>
      match room with
      | 0 => none
      | room + 1 => readItems fuel room [] rest
    | '\x7b' :: rest =>
      match room with
      | 0 => none
      | room + 1 =>
        match skipSpace rest with
        | '\x7d' :: rest => some (.obj [], rest)
        | rest => readMembers fuel room [] rest
    | cs => Scalar.read cs

def readItems (fuel room : Nat) (done : List Json) (cs : List Char) : Option (Json × List Char) :=
  match fuel with
  | 0 => none
  | fuel + 1 =>
    match skipFiller (cs.length + 1) cs with
    | none => none
    | some (']' :: rest) => some (.arr done.reverse, rest)
    | some rest =>
      match readValue fuel room rest with
      | none => none
      | some (item, rest) =>
        match skipFiller (rest.length + 1) rest with
        | some (',' :: rest) => readItems fuel room (item :: done) rest
        | some (']' :: rest) => some (.arr (item :: done).reverse, rest)
        | _ => none

def readMembers (fuel room : Nat) (done : Entries) (cs : List Char) : Option (Json × List Char) :=
  match fuel with
  | 0 => none
  | fuel + 1 =>
    match readKey depthLimit cs with
    | some ((dots, name), '=' :: rest) =>
      match readValue fuel room (skipSpace rest) with
      | none => none
      | some (value, rest) =>
        match assign dots name value .header done with
        | none => none
        | some done =>
          match skipSpace rest with
          | ',' :: rest => readMembers fuel room done rest
          | '\x7d' :: rest => some (.obj (membersOf done), rest)
          | _ => none
    | _ => none

end

/-- What a text says up to one of its lines: the header in force and everything so far. -/
structure Document where
  header : List String
  root : Entries

namespace Document

def readHeader (d : Document) (cs : List Char) : Option (Document × List Char) :=
  match cs with
  | '[' :: cs =>
    match readKey depthLimit cs with
    | some ((parents, name), ']' :: ']' :: rest) => do
      return (⟨parents ++ [name], ← openRow parents name d.root⟩, ← endLine? rest)
    | _ => none
  | cs =>
    match readKey depthLimit cs with
    | some ((parents, name), ']' :: rest) => do
      return (⟨parents ++ [name], ← openTable parents name d.root⟩, ← endLine? rest)
    | _ => none

def readAssignment (d : Document) (cs : List Char) : Option (Document × List Char) :=
  match readKey depthLimit cs with
  | some ((dots, name), '=' :: rest) => do
    let (value, rest) ← readValue (2 * rest.length + 2) depthLimit (skipSpace rest)
    return ({ d with root := ← assignUnder d.header dots name value d.root }, ← endLine? rest)
  | _ => none

def readLines : Nat → Document → List Char → Option Document
  | 0, _, _ => none
  | fuel + 1, d, cs =>
    match skipSpace cs with
    | [] => some d
    | '[' :: rest => (d.readHeader rest).bind fun (d, rest) => readLines fuel d rest
    | cs =>
      if cs.head? = some '#' ∨ (lineBreak? cs).isSome then
        (endLine? cs).bind fun rest => readLines fuel d rest
      else (d.readAssignment cs).bind fun (d, rest) => readLines fuel d rest

end Document

def ofText? (s : String) : Option Json :=
  let cs := match s.toList with
    | '\ufeff' :: rest => rest
    | cs => cs
  (Document.readLines (cs.length + 1) ⟨[], []⟩ cs).map fun d => .obj (membersOf d.root)

end Stepwise.Toml
