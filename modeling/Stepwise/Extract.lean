import Stepwise.Text.Blank
import Stepwise.Text.Case
import Stepwise.Text.Word
/-!
Named values in free text: `name: value` or `name = value`, the name at a word boundary and in any
case. A value in quotes runs to the same quote again; any other value is the longest run without
blanks, commas and semicolons. The leftmost place that reads so is taken.
-/

namespace Stepwise.Extract

def afterName? : List Char → List Char → Option (List Char)
  | [], cs => some cs
  | _ :: _, [] => none
  | n :: name, c :: cs => if Text.fold n = Text.fold c then afterName? name cs else none

def afterSeparator? (cs : List Char) : Option (List Char) :=
  match Text.trimStart cs with
  | ':' :: rest => some (Text.trimStart rest)
  | '=' :: rest => some (Text.trimStart rest)
  | _ => none

def upTo? (quote : Char) : List Char → Option (List Char)
  | [] => none
  | c :: rest => if c = quote then some [] else (upTo? quote rest).map (c :: ·)

def isBare (c : Char) : Bool := !(Text.isBlank c || c = ',' || c = ';')

def bareValue? (cs : List Char) : Option (List Char) :=
  match cs.takeWhile isBare with
  | [] => none
  | value => some value

def value? (cs : List Char) : Option (List Char) :=
  match cs with
  | '"' :: rest => (upTo? '"' rest).or (bareValue? cs)
  | '\x27' :: rest => (upTo? '\x27' rest).or (bareValue? cs)
  | _ => bareValue? cs

def isWordAt (c : Option Char) : Bool := (c.map Text.isWord).getD false

/-- The value that a place gives to a name, if the text from there on reads as one. -/
def at? (name : List Char) (before : Option Char) (cs : List Char) : Option (List Char) :=
  if isWordAt before = isWordAt cs.head? then none
  else (afterName? name cs).bind fun rest => (afterSeparator? rest).bind value?

def first? (name : List Char) (before : Option Char) (cs : List Char) : Option (List Char) :=
  match at? name before cs with
  | some value => some value
  | none =>
    match cs with
    | [] => none
    | c :: rest => first? name (some c) rest

end Extract

def extractValue (text name : String) : Option String :=
  (Extract.first? name.toList none text.toList).map String.ofList

end Stepwise
