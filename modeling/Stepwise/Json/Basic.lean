import Stepwise.Decimal.Binary64
/-!
JSON values. An integer within the signed or unsigned 64-bit range is kept exactly; every other
number is a binary one. An object is the list of its members in the order in which they are
written.
-/

namespace Stepwise

inductive Number where
  | int (value : Int)
  | float (value : Binary64)
  deriving DecidableEq

inductive Json where
  | null
  | bool (value : Bool)
  | num (value : Number)
  | str (value : String)
  | arr (items : List Json)
  | obj (members : List (String × Json))

namespace Json

instance : Inhabited Json := ⟨null⟩

def int (i : Int) : Json := num (.int i)

def nat (n : Nat) : Json := num (.int n)

def isNull : Json → Bool
  | null => true
  | _ => false

def text? : Json → Option String
  | str s => some s
  | _ => none

/-- The value of the first member of that name. -/
def member? (name : String) : Json → Option Json
  | obj members => members.lookup name
  | _ => none

def ofOption (write : α → Json) : Option α → Json
  | some a => write a
  | none => null

def texts (l : List String) : Json := arr (l.map str)

end Json

end Stepwise
