import Stepwise.Shell.Tree
import Stepwise.Table
/-!
What a shell remembers: variables, functions, parameters, options and traps. Values are texts of
octets, each the character of that number.
-/

namespace Stepwise.Shell

structure Variable where
  /-- A variable may be exported before it has a value. -/
  value : Option String
  isExported : Bool
  isReadonly : Bool

structure Env where
  vars : Table Variable
  functions : List (String × Node)
  params : List String
  name : String
  options : List Char
  /-- What to do on a signal; number zero stands for the end of the shell. -/
  traps : List (Nat × String)
  status : Nat
  pid : Nat
  lastJob : Option Nat
  directory : String
  /-- What local variables were before, for each call that is going on. -/
  scopes : List (List (String × Option Variable))
  /-- How many characters of the current argument have been read as options. -/
  optionPlace : Nat

namespace Env

def value? (e : Env) (name : String) : Option String := (e.vars.get? name).bind (·.value)

def value (e : Env) (name : String) : String := (e.value? name).getD ""

def isReadonly (e : Env) (name : String) : Bool :=
  ((e.vars.get? name).map (·.isReadonly)).getD false

def hasOption (e : Env) (letter : Char) : Bool := e.options.contains letter

/-- Gives a variable a value; it stays exported if it was. -/
def set (e : Env) (name value : String) : Env :=
  let before := (e.vars.get? name).getD ⟨none, e.hasOption 'a', false⟩
  { e with vars := e.vars.insert name { before with value := some value } }

def unset (e : Env) (name : String) : Env := { e with vars := e.vars.erase name }

def mark (e : Env) (name : String) (change : Variable → Variable) : Env :=
  { e with vars := e.vars.insert name (change ((e.vars.get? name).getD ⟨none, false, false⟩)) }

def exportVar (e : Env) (name : String) : Env := e.mark name fun v => { v with isExported := true }

def openScope (e : Env) : Env := { e with scopes := [] :: e.scopes }

def makeLocal (e : Env) (name : String) : Env :=
  match e.scopes with
  | [] => e
  | scope :: rest =>
    if (scope.lookup name).isSome then e
    else { e with scopes := ((name, e.vars.get? name) :: scope) :: rest }

def closeScope (e : Env) : Env :=
  match e.scopes with
  | [] => e
  | scope :: rest =>
    let vars := scope.foldl (fun vars (name, before) =>
      match before with
      | some v => Table.insert vars name v
      | none => Table.erase vars name) e.vars
    { e with vars, scopes := rest }

def separators (e : Env) : List Char :=
  match e.value? "IFS" with
  | some s => s.toList
  | none => [' ', '\t', '\n']

def param? (e : Env) (name : String) : Option String :=
  match name.toList with
  | ['#'] => some (toString e.params.length)
  | ['?'] => some (toString e.status)
  | ['$'] => some (toString e.pid)
  | ['!'] => e.lastJob.map toString
  | ['-'] => some (String.ofList e.options)
  | c :: _ =>
    if c.isDigit then
      match name.toNat? with
      | some 0 => some e.name
      | some (n + 1) => e.params[n]?
      | none => none
    else e.value? name
  | [] => none

def functions? (e : Env) (name : String) : Option Node := e.functions.lookup name

/-- What a new process of the shell takes over: traps that do something are reset. -/
def forked (e : Env) : Env := { e with traps := e.traps.filter fun t => t.2.isEmpty }

def exported (e : Env) : Table Variable :=
  (e.vars.filter fun _ v => v.isExported && v.value.isSome).map fun v =>
    { v with isReadonly := false }

def usual : List (String × String) := [
  ("IFS", " \t\n"), ("OPTIND", "1"), ("PS1", "# "), ("PS2", "> "), ("PS4", "+ ")]

def initial (vars : Table Variable) (name : String) (params : List String) (options : List Char)
    (pid : Nat) (directory : String) : Env where
  vars := usual.foldl (fun vars (name, value) => vars.insert name ⟨some value, false, false⟩) vars
  functions := []
  params
  name
  options
  traps := []
  status := 0
  pid
  lastJob := none
  directory
  scopes := []
  optionPlace := 0

end Env

end Stepwise.Shell
