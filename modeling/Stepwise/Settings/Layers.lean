import Stepwise.Decimal.Plain
import Stepwise.Text.Case
import Stepwise.Table
/-!
Layers of settings. A layer is a JSON object; laying one over another merges tables and replaces
everything else. Names do not depend on case, and a name may be a path that leads into tables and
arrays.
-/

namespace Stepwise.Settings

def membersOf : Json → List (String × Json)
  | .obj members => members
  | _ => []

def itemsOf : Json → List Json
  | .arr items => items
  | _ => []

mutual

/-- Sets a member. A table is merged into the one that is there; what is no table becomes one as
soon as something is put into it. -/
def setMember (name : String) (value target : Json) : Json :=
  match value with
  | .obj incoming =>
    let members := membersOf target
    let inner := (members.lookup (Text.lower name)).getD (.obj [])
    .obj (insertEntry (Text.lower name) (setMembers incoming inner) members)
  | value => .obj (insertEntry (Text.lower name) value (membersOf target))

def setMembers (incoming : List (String × Json)) (target : Json) : Json :=
  match incoming with
  | [] => target
  | (name, value) :: rest => setMembers rest (setMember name value target)

end

inductive PathStep where
  | name (name : String)
  | item (index : Int)
  deriving DecidableEq, Repr

namespace Path

def isNameChar (c : Char) : Bool := c.isAlphanum || c = '_' || c = '-' || c = ' '

def isSpace (c : Char) : Bool := c = ' ' || c = '\t'

def index? (cs : List Char) : Option (Int × List Char) :=
  let (negative, cs) := match cs.dropWhile isSpace with
    | '-' :: cs => (true, cs)
    | cs => (false, cs)
  match Decimal.digitsOf cs with
  | ([], _) => none
  | (ds, rest) =>
    match rest.dropWhile isSpace with
    | ']' :: rest => some (if negative then -(Decimal.natOf ds : Int) else Decimal.natOf ds, rest)
    | _ => none

def steps? : Nat → List Char → Option (List PathStep)
  | _, [] => some []
  | 0, _ => none
  | fuel + 1, '.' :: rest =>
    match rest.takeWhile isNameChar with
    | [] => none
    | name => (steps? fuel (rest.dropWhile isNameChar)).map (.name (String.ofList name) :: ·)
  | fuel + 1, '[' :: rest =>
    (index? rest).bind fun (i, rest) => (steps? fuel rest).map (.item i :: ·)
  | _, _ => none

/-- The path that a name spells; one that spells none is a single step. -/
def ofName (name : String) : List PathStep :=
  let cs := name.toList
  match cs.takeWhile isNameChar with
  | [] => [.name name]
  | first =>
    match steps? cs.length (cs.dropWhile isNameChar) with
    | some rest => .name (String.ofList first) :: rest
    | none => [.name name]

end Path

/-- Replaces an item, after filling up with nulls if need be. An index below zero counts from the
end, and does nothing where that is not in the array. -/
def alterItem (index : Int) (change : Json → Json) (items : List Json) : List Json :=
  let place := if index < 0 then items.length + index else index
  if place < 0 then items
  else
    let items := items ++ List.replicate (place.toNat + 1 - items.length) .null
    items.modify place.toNat change

/-- Sets the value at a path; on the way everything becomes a table or an array as needed. -/
def setAt : List PathStep → Json → Json → Json
  | [], value, _ => value
  | [.name name], value, target => setMember name value target
  | .name name :: rest, value, target =>
    let members := membersOf target
    let inner := (members.lookup (Text.lower name)).getD .null
    .obj (insertEntry (Text.lower name) (setAt rest value inner) members)
  | .item index :: rest, value, target =>
    .arr (alterItem index (setAt rest value) (itemsOf target))

/-- Lays a layer over others. The names of its members may be paths. -/
def lay (layer : List (String × Json)) (below : Json) : Json :=
  layer.foldl (fun below (name, value) => setAt (Path.ofName name) value below) below

/-- What the text of an environment variable stands for: a truth value, an integer of 64 bits, a
binary number, or itself. -/
def ofVariable (text : String) : Json :=
  let lower := Text.lower text
  if lower = "true" then .bool true
  else if lower = "false" then .bool false
  else
    match Decimal.int64? text.toList with
    | some i => .int i
    | none =>
      match Decimal.float? text.toList with
      | some x => .num (.float x)
      | none => .str text

def variableStart : String := "runbook__"

def ofEnvironment (environment : Table String) : List (String × Json) :=
  environment.entries.filterMap fun (name, text) =>
    let name := Text.lower name
    if name.startsWith variableStart then
      let path := (name.drop variableStart.length).toString.replace "__" "."
      some (path, ofVariable text)
    else none

/-- A number as a setting; integers of more than 63 bits are binary ones. -/
def wideNumber : Number → Number
  | .int i => if i < Nat.pow 2 63 then .int i else .float (.ofDecimal i.toNat 0)
  | n => n

def unsignedWord? (word : String) : Option Nat :=
  if word = "true" ∨ word = "on" ∨ word = "yes" then some 1
  else if word = "false" ∨ word = "off" ∨ word = "no" then some 0
  else none

def unsigned? : Json → Option Nat
  | .bool b => some (if b then 1 else 0)
  | .num n =>
    match wideNumber n with
    | .int i => if 0 ≤ i then some i.toNat else none
    | .float x => some x.toUnsigned
  | .str s =>
    match unsignedWord? (Text.lower s) with
    | some n => some n
    | none => Decimal.natBelow? UInt64.size s.toList
  | _ => none

def text? : Json → Option String
  | .str s => some s
  | .bool b => some (if b then "true" else "false")
  | .num n =>
    match wideNumber n with
    | .int i => some (String.ofList (intChars i))
    | .float x => some (String.ofList x.plainChars)
  | _ => none

end Stepwise.Settings
