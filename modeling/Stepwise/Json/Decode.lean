import Stepwise.Json.Printer
import Stepwise.Table
import Stepwise.Text.Revealed
/-!
Reading domain values from JSON. Of several faults in a record the one met first counts, in the
order in which the members stand; members that are missing are noticed at the end, in the order in
which the record declares them. `Piece` keeps that order while the parts of a record are read
independently of each other.
-/

namespace Stepwise

inductive Found where
  | null
  | bool (value : Bool)
  | num (value : Number)
  | str (value : String)
  | sequence
  | map

inductive DecodeError where
  | wrongType (found : Found) (wanted : String)
  | negative (value : Int) (wanted : String)
  | noSuchVariant (index : Int) (count : Nat)
  | notOneMember
  | unknownVariant (name : String) (known : List String)
  | missing (field : String)
  | repeated (field : String)
  /-- The number of elements there were, or the place of the first one without which the rest
  cannot be read. -/
  | length (count : Nat) (wanted : String)
  | badTime (text : String)

namespace Found

def describe : Found → String
  | null => "null"
  | bool b => "boolean `" ++ (if b then "true" else "false") ++ "`"
  | num (.int i) => "integer `" ++ String.ofList (intChars i) ++ "`"
  | num n => "floating point `" ++ String.ofList n.chars ++ "`"
  | str s => "string " ++ Text.revealed s
  | sequence => "sequence"
  | map => "map"

end Found

namespace DecodeError

def ticked (s : String) : String := "`" ++ s ++ "`"

def alternatives : List String → String
  | [] => "there are no variants"
  | [a] => "expected " ++ ticked a
  | [a, b] => "expected " ++ ticked a ++ " or " ++ ticked b
  | names => "expected one of " ++ ", ".intercalate (names.map ticked)

def message : DecodeError → String
  | wrongType found wanted => "invalid type: " ++ found.describe ++ ", expected " ++ wanted
  | negative value wanted =>
    "invalid value: " ++ (Found.num (.int value)).describe ++ ", expected " ++ wanted
  | noSuchVariant index count =>
    "invalid value: " ++ (Found.num (.int index)).describe ++
      ", expected variant index 0 <= i < " ++ toString count
  | notOneMember => "invalid value: map, expected map with a single key"
  | unknownVariant name known => "unknown variant " ++ ticked name ++ ", " ++ alternatives known
  | missing field => "missing field " ++ ticked field
  | repeated field => "duplicate field " ++ ticked field
  | length count wanted => "invalid length " ++ toString count ++ ", expected " ++ wanted
  | badTime text => text

end DecodeError

namespace Json

abbrev Decoder (α : Type) := Json → Except DecodeError α

def found : Json → Found
  | null => .null
  | bool b => .bool b
  | num n => .num n
  | str s => .str s
  | arr _ => .sequence
  | obj _ => .map

def wrong (wanted : String) (j : Json) : Except DecodeError α := .error (.wrongType j.found wanted)

def text : Decoder String
  | str s => .ok s
  | j => wrong "a string" j

def flag : Decoder Bool
  | bool b => .ok b
  | j => wrong "a boolean" j

def unsigned (wanted : String) : Decoder Nat
  | num (.int i) => if i < 0 then .error (.negative i wanted) else .ok i.toNat
  | j => wrong wanted j

def wide : Decoder Nat := unsigned "u64"

def size : Decoder Nat := unsigned "usize"

def listOf (item : Decoder α) : Decoder (List α)
  | arr items => items.mapM item
  | j => wrong "a sequence" j

def orNull (value : Decoder α) : Decoder (Option α)
  | null => .ok none
  | j => (value j).map some

def tableOf (value : Decoder α) : Decoder (Table α)
  | obj members => do
    let read ← members.mapM fun m => (value m.2).map fun a => (m.1, a)
    return Table.ofList read
  | j => wrong "a map" j

def free : Decoder Json := .ok

def freeTable : Decoder (Table Json)
  | obj members => .ok (Table.ofList members)
  | j => wrong "a map" j

/-- A part of a record: its value, or the fault in it and the place where that is met. -/
inductive Piece (α : Type) where
  | ok (value : α)
  | fault (place : Nat) (cause : DecodeError)

namespace Piece

def seq (f : Piece (α → β)) (a : Piece α) : Piece β :=
  match f, a with
  | ok f, ok a => ok (f a)
  | fault p e, ok _ => fault p e
  | ok _, fault p e => fault p e
  | fault p e, fault q e' => if q < p then fault q e' else fault p e

instance : Applicative Piece where
  pure := ok
  seq f a := f.seq (a ())

def toExcept : Piece α → Except DecodeError α
  | ok a => .ok a
  | fault _ e => .error e

@[simp] theorem map_ok (f : α → β) (a : α) : f <$> ok a = ok (f a) := rfl

@[simp] theorem seq_ok (f : α → β) (a : α) : (ok f <*> ok a : Piece β) = ok (f a) := rfl

end Piece

structure Members where
  items : List (String × Json)
  absent : String → DecodeError
  /-- Whether the members are told apart by their places. -/
  positional : Bool

namespace Members

/-- The first member of a name with its place, and the place of the second one. -/
def locate (name : String) (place : Nat) : List (String × Json) → Option (Nat × Json × Option Nat)
  | [] => none
  | (k, v) :: rest =>
    if k = name then
      some (place, v, (rest.findIdx? (·.1 == name)).map (place + 1 + ·))
    else locate name (place + 1) rest

def read (m : Members) (name : String) (value : Decoder α) : Piece (Option α) :=
  match locate name 0 m.items with
  | none => .ok none
  | some (place, j, again) =>
    match value j, again with
    | .error e, _ => .fault place e
    | .ok _, some place' => .fault place' (.repeated name)
    | .ok a, none => .ok (some a)

def required (m : Members) (name : String) (value : Decoder α) : Piece α :=
  match m.read name value with
  | .ok (some a) => .ok a
  | .ok none => .fault m.items.length (m.absent name)
  | .fault p e => .fault p e

def optional (m : Members) (name : String) (value : Decoder α) (default : α) : Piece α :=
  (·.getD default) <$> m.read name value

/-- A member that may be null, and missing unless members go by their places. -/
def nullable (m : Members) (name : String) (value : Decoder α) : Piece (Option α) :=
  if m.positional then m.required name (orNull value) else m.optional name (orNull value) none

end Members

def elements (n : Nat) : String := if n = 1 then "1 element" else toString n ++ " elements"

inductive Surplus where
  | inArray
  | inSequence

def Surplus.wanted (fields : Nat) : Surplus → String
  | inArray => "fewer elements in array"
  | inSequence => elements fields ++ " in sequence"

def fromElements (kind : String) (fields : List String) (surplus : Surplus)
    (build : Members → Piece α) (items : List Json) : Except DecodeError α := do
  let absent name :=
    .length (fields.findIdx (· == name)) (kind ++ " with " ++ elements fields.length)
  let a ← (build ⟨fields.zip items, absent, true⟩).toExcept
  if fields.length < items.length then
    .error (.length items.length (surplus.wanted fields.length))
  else .ok a

def fromMembers (build : Members → Piece α) (members : List (String × Json)) :
    Except DecodeError α :=
  (build ⟨members, .missing, false⟩).toExcept

/-- A record by names, or by places. -/
def record (kind : String) (fields : List String) (surplus : Surplus) (build : Members → Piece α) :
    Decoder α
  | obj members => fromMembers build members
  | arr items => fromElements kind fields surplus build items
  | j => wrong kind j

def variant (names : List (String × α)) (name : String) : Except DecodeError α :=
  match names.lookup name with
  | some a => .ok a
  | none => .error (.unknownVariant name (names.map (·.1)))

/-- A choice of names. It may also be written as a map from the name to nothing; inside a step an
empty map, too, is nothing. -/
def choice (names : List (String × α)) (insideStep : Bool) : Decoder α
  | str s => variant names s
  | obj [(name, value)] =>
    match variant names name, value with
    | .error e, _ => .error e
    | .ok a, null => .ok a
    | .ok a, obj [] => if insideStep then .ok a else wrong "unit" (obj [])
    | .ok _, j => wrong "unit" j
  | obj _ => .error .notOneMember
  | j => wrong "string or map" j

inductive Body where
  | members (items : List (String × Json))
  | elements (items : List Json)

/-- The variant that a tag names. Inside a step a tag may also be the number of a variant. -/
def tagged (names : List (String × α)) (insideStep : Bool) : Decoder α
  | str s => variant names s
  | num (.int i) =>
    if insideStep ∧ 0 ≤ i then
      match names[i.toNat]? with
      | some (_, a) => .ok a
      | none => .error (.noSuchVariant i names.length)
    else wrong "variant identifier" (int i)
  | j => wrong "variant identifier" j

def splitMembers (tag : String) (names : List (String × α)) (insideStep : Bool)
    (members : List (String × Json)) : Except DecodeError (α × Body) := do
  let a ← fromMembers (·.required tag (tagged names insideStep)) members
  return (a, .members (members.filter (·.1 != tag)))

def splitTagged (kind tag : String) (names : List (String × α)) (insideStep : Bool) :
    Json → Except DecodeError (α × Body)
  | obj members => splitMembers tag names insideStep members
  | arr [] => .error (.missing tag)
  | arr (t :: rest) => return (← tagged names insideStep t, .elements rest)
  | j => wrong ("internally tagged enum " ++ kind) j

def Body.read (kind : String) (fields : List String) (build : Members → Piece α) :
    Body → Except DecodeError α
  | members items => fromMembers build items
  | elements items => fromElements ("struct variant " ++ kind) fields .inSequence build items

def Body.unit (a : α) : Body → Except DecodeError α
  | members _ => .ok a
  | elements [] => .ok a
  | elements items => .error (.length items.length (Surplus.inSequence.wanted 0))

end Json

end Stepwise
