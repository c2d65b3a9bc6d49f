import Stepwise.Json.Basic
import Stepwise.Table
/-!
The tree that the statements of a TOML text build up. How a table came to be decides what may still
be added to it: a table with a header of its own has no second one, and keys with dots extend only
tables that such keys have made.
-/

namespace Stepwise.Toml

inductive Origin where
  | header
  /-- It lies on the way to one that has. -/
  | path
  /-- A key with dots leads through it. -/
  | dotted
  deriving DecidableEq, Repr

inductive Node where
  | value (value : Json)
  | table (origin : Origin) (entries : List (String × Node))
  /-- The rows of an array of tables, the last one first. -/
  | tables (rows : List (List (String × Node)))

instance : Inhabited Node := ⟨.value .null⟩

abbrev Entries := List (String × Node)

/-- Changes the table that a path leads to, which stands for the last row of an array of tables.
Tables that are missing are made. -/
def within (making : Origin) (change : Origin → Entries → Option Entries) :
    Origin → List String → Entries → Option Entries
  | origin, [], entries => change origin entries
  | _, name :: rest, entries =>
    match entries.lookup name with
    | none =>
      (within making change making rest []).map fun t => insertEntry name (.table making t) entries
    | some (.value _) => none
    | some (.tables []) => none
    | some (.tables (row :: above)) =>
      (within making change .header rest row).map fun t =>
        insertEntry name (.tables (t :: above)) entries
    | some (.table origin inner) =>
      if making = .dotted ∧ origin = .header then none
      else
        (within making change origin rest inner).map fun t =>
          insertEntry name (.table origin t) entries

def assign (dots : List String) (name : String) (value : Json) (origin : Origin)
    (entries : Entries) : Option Entries :=
  within .dotted (fun origin inner =>
    if ¬ dots.isEmpty ∧ origin ≠ .dotted then none
    else if (inner.lookup name).isSome then none
    else some (insertEntry name (.value value) inner)) origin dots entries

def openTable (parents : List String) (name : String) (root : Entries) : Option Entries :=
  within .path (fun _ inner =>
    match inner.lookup name with
    | none => some (insertEntry name (.table .header []) inner)
    | some (.table .path t) => some (insertEntry name (.table .header t) inner)
    | some _ => none) .header parents root

def openRow (parents : List String) (name : String) (root : Entries) : Option Entries :=
  within .path (fun _ inner =>
    match inner.lookup name with
    | none => some (insertEntry name (.tables [[]]) inner)
    | some (.tables rows) => some (insertEntry name (.tables ([] :: rows)) inner)
    | some _ => none) .header parents root

def assignUnder (header dots : List String) (name : String) (value : Json) (root : Entries) :
    Option Entries :=
  within .path (assign dots name value) .header header root

mutual

def Node.toJson : Node → Json
  | .value v => v
  | .table _ entries => .obj (membersOf entries)
  | .tables rows => .arr (rowsOf rows).reverse

def membersOf : List (String × Node) → List (String × Json)
  | [] => []
  | (name, node) :: rest => (name, node.toJson) :: membersOf rest

def rowsOf : List (List (String × Node)) → List Json
  | [] => []
  | row :: rest => .obj (membersOf row) :: rowsOf rest

end

end Stepwise.Toml
