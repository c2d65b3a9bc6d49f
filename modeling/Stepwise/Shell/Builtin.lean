import Stepwise.Shell.Format
import Stepwise.Shell.Test
import Stepwise.Shell.Turn
/-!
The commands that a shell carries out itself. Some of them are special: assignments in front of
them last, and a fault in one ends the shell.
-/

namespace Stepwise.Shell

namespace Builtin

def special : List String := [
  ".", ":", "break", "continue", "eval", "exec", "exit", "export", "readonly", "return", "set",
  "shift", "times", "trap", "unset"]

def regular : List String := [
  "[", "alias", "cd", "chdir", "command", "echo", "false", "getopts", "hash", "jobs",
  "kill", "local", "printf", "pwd", "read", "test", "true", "type", "ulimit", "umask", "unalias",
  "wait"]

def isSpecial (name : String) : Bool := special.contains name

def isBuiltin (name : String) : Bool := special.contains name || regular.contains name

def isName (text : String) : Bool :=
  match text.toList with
  | c :: rest => (c.isAlpha || c = '_') && rest.all fun d => d.isAlphanum || d = '_'
  | [] => false

def binding (word : String) : String × Option String :=
  let name := word.toList.takeWhile (· ≠ '=')
  match word.toList.drop name.length with
  | _ :: value => (String.ofList name, some (String.ofList value))
  | [] => (word, none)

def quoted (text : String) : String :=
  "'" ++ "'\"'\"'".intercalate (text.splitOn "'") ++ "'"

def illegalNumber (text : String) : String := "Illegal number: " ++ text

def options : List String → List Char × List String
  | [] => ([], [])
  | "--" :: rest => ([], rest)
  | a :: rest =>
    match a.toList with
    | '-' :: c :: more =>
      let (letters, rest) := options rest
      (c :: more ++ letters, rest)
    | _ => ([], a :: rest)

def status (m : Machine) (p : Process) (args : List String) (leap : Nat → Leap) : Turn :=
  match args with
  | [] => Turn.leap m p (leap p.env.status)
  | a :: _ =>
    match a.toNat? with
    | some n => Turn.leap m p (leap (n % 256))
    | none => Turn.fail m p (illegalNumber a)

def loops (m : Machine) (p : Process) (args : List String) (leap : Nat → Leap) : Turn :=
  match args with
  | [] => Turn.leap m p (leap 1)
  | a :: _ =>
    match a.toNat? with
    | some (n + 1) => Turn.leap m p (leap (n + 1))
    | _ => Turn.fail m p (illegalNumber a)

def script (m : Machine) (p : Process) (text : String) : Turn :=
  Turn.stay m (p.goto (.script text.toList 0))

def source (m : Machine) (p : Process) (args : List String) : Turn :=
  match args with
  | [] => Turn.done m p 0
  | path :: _ =>
    match m.files.get? (Files.absolute p.env.directory path) with
    | some text =>
      script m { p.push (.call p.env.params) with env := p.env.openScope } text
    | none => Turn.fail m p (".: cannot open " ++ path ++ ": No such file")

def shift (m : Machine) (p : Process) (args : List String) : Turn :=
  let count := match args with
    | [] => some 1
    | a :: _ => a.toNat?
  match count with
  | none => Turn.fail m p (illegalNumber (args.headD ""))
  | some n =>
    if p.env.params.length < n then Turn.fail m p "shift: can't shift that many"
    else Turn.done m { p with env := { p.env with params := p.env.params.drop n } } 0

def listedOptions : List (String × Char) := [
  ("errexit", 'e'), ("noglob", 'f'), ("ignoreeof", 'I'), ("interactive", 'i'), ("monitor", 'm'),
  ("noexec", 'n'), ("stdin", 's'), ("xtrace", 'x'), ("verbose", 'v'), ("vi", 'V'), ("emacs", 'E'),
  ("noclobber", 'C'), ("allexport", 'a'), ("notify", 'b'), ("nounset", 'u'), ("privileged", 'p'),
  ("nolog", 'L'), ("debug", 'D')]

def listOptions (e : Env) : String :=
  "Current option settings\n" ++ String.join (listedOptions.map fun (name, c) =>
    name ++ String.ofList (List.replicate (16 - name.length) ' ') ++
      (if e.hasOption c then "on" else "off") ++ "\n")

def setOption (on : Bool) (letters : List Char) (c : Char) : List Char :=
  let others := letters.filter (· != c)
  if on then others ++ [c] else others

/-- The options after `set`, and the parameters if it gives any. -/
def setArgs (letters : List Char) : List String → Option (List Char × Option (List String))
  | [] => some (letters, none)
  | "--" :: rest => some (letters, some rest)
  | "-" :: rest => some (letters, if rest.isEmpty then none else some rest)
  | "-o" :: name :: rest => do setArgs (setOption true letters (← listedOptions.lookup name)) rest
  | "+o" :: name :: rest => do setArgs (setOption false letters (← listedOptions.lookup name)) rest
  | a :: rest =>
    match a.toList with
    | '-' :: cs =>
      if cs.all fun c => listedOptions.any (·.2 == c) then
        setArgs (cs.foldl (setOption true) letters) rest
      else none
    | '+' :: cs =>
      if cs.all fun c => listedOptions.any (·.2 == c) then
        setArgs (cs.foldl (setOption false) letters) rest
      else none
    | _ => some (letters, some (a :: rest))

def listVars (keep : Variable → Bool) (start : String) (e : Env) : String :=
  String.join ((e.vars.entries.filter fun v => keep v.2).map fun (name, v) =>
    match v.value with
    | some text => start ++ name ++ "=" ++ quoted text ++ "\n"
    | none => start ++ name ++ "\n")

def set (m : Machine) (p : Process) (args : List String) : Turn :=
  match args with
  | [] => Turn.print m p (listVars (·.value.isSome) "" p.env)
  | ["-o"] => Turn.print m p (listOptions p.env)
  | ["+o"] => Turn.done m p 0
  | args =>
    match setArgs p.env.options args with
    | none => Turn.fail m p ("set: Illegal option " ++ args.headD "")
    | some (letters, params) =>
      Turn.done m
        { p with env := { p.env with options := letters, params := params.getD p.env.params } } 0

def unset (m : Machine) (p : Process) (args : List String) : Turn :=
  let (letters, names) := options args
  match names.find? p.env.isReadonly with
  | some name => Turn.fail m p ("unset: " ++ name ++ ": is read only")
  | none =>
    let env :=
      if letters.contains 'f' then
        { p.env with functions := p.env.functions.filter fun f => !names.contains f.1 }
      else names.foldl Env.unset p.env
    Turn.done m { p with env } 0

def declare (mark : Env → String → Env) : List String → Env → Except String Env
  | [], e => .ok e
  | word :: rest, e =>
    let (name, value) := binding word
    if !isName name then .error (name ++ ": bad variable name")
    else
      match value with
      | some v =>
        if e.isReadonly name then .error (name ++ ": is read only")
        else declare mark rest (mark (e.set name v) name)
      | none => declare mark rest (mark e name)

def declareAll (m : Machine) (p : Process) (command : String) (keep : Variable → Bool)
    (mark : Env → String → Env) (args : List String) : Turn :=
  let (letters, words) := options args
  if words.isEmpty ∨ letters.contains 'p' then
    Turn.print m p (listVars keep (command ++ " ") p.env)
  else
    match declare mark words p.env with
    | .ok env => Turn.done m { p with env } 0
    | .error message => Turn.fail m p (command ++ ": " ++ message)

def makeLocals (m : Machine) (p : Process) (args : List String) : Turn :=
  if p.env.scopes.isEmpty then Turn.fail m p "local: not in a function"
  else
    let env := args.foldl (fun e word => e.makeLocal (binding word).1) p.env
    match declare (fun e _ => e) (args.filter fun word => (binding word).2.isSome) env with
    | .ok env => Turn.done m { p with env } 0
    | .error message => Turn.fail m p ("local: " ++ message)

def readOptions (isRaw : Bool) : List String → Bool × List String
  | "-r" :: rest => readOptions true rest
  | "-p" :: _ :: rest => readOptions isRaw rest
  | "--" :: rest => (isRaw, rest)
  | args => (isRaw, args)

def read (m : Machine) (p : Process) (args : List String) : Turn :=
  let (isRaw, names) := readOptions false args
  match names with
  | [] => Turn.complain m p "read: arg count" 2
  | names =>
    match names.find? (!isName ·) with
    | some name => Turn.complain m p ("read: " ++ name ++ ": bad variable name") 2
    | none => Turn.stay m (p.goto (.read ⟨names, isRaw, [], false⟩))

def cd (m : Machine) (p : Process) (args : List String) : Turn :=
  let operands := args.filter fun a => a != "-L" && a != "-P" && a != "--"
  let wanted :=
    match operands with
    | [] => p.env.value? "HOME"
    | "-" :: _ => p.env.value? "OLDPWD"
    | d :: _ => some d
  match wanted with
  | none => Turn.done m p 0
  | some d =>
    let whole := Files.absolute p.env.directory d
    if Files.isDirectory m.files m.home whole then
      let env := ((p.env.set "OLDPWD" p.env.directory).set "PWD" whole)
      let p := { p with env := { env with directory := whole } }
      if operands.head? = some "-" then Turn.print m p (whole ++ "\n") else Turn.done m p 0
    else Turn.complain m p ("cd: can't cd to " ++ d) 2

/-- Splits a line among names: all but the last get a field each, and the last gets the rest. -/
def assignFields (separators : List Char) (e : Env) (line : List (Char × Bool)) :
    List String → Env
  | [] => e
  | [name] =>
    let isBlank (c : Char × Bool) : Bool :=
      !c.2 && separators.contains c.1 && Glyph.Splitting.isBlank c.1
    let rest := (line.dropWhile isBlank).reverse.dropWhile isBlank
    -- A single separator at the end of what would be one field is dropped with it.
    let rest := match rest with
      | c :: more =>
        if !c.2 ∧ separators.contains c.1 ∧
            !(more.any fun d => !d.2 && separators.contains d.1) then more.dropWhile isBlank
        else c :: more
      | [] => []
    e.set name (String.ofList (rest.reverse.map (·.1)))
  | name :: names =>
    let splits (c : Char × Bool) : Bool := !c.2 && separators.contains c.1
    let isBlank (c : Char × Bool) : Bool := splits c && Glyph.Splitting.isBlank c.1
    let line := line.dropWhile isBlank
    let field := line.takeWhile fun c => !splits c
    let rest := (line.drop field.length).dropWhile isBlank
    let rest := match rest with
      | c :: more => if splits c then more else rest
      | [] => []
    assignFields separators (e.set name (String.ofList (field.map (·.1)))) rest names

def sendTo (m : Machine) (signal : Nat) (pids : List Nat) : Machine :=
  pids.foldl (fun m pid => match m.process? pid with
    | some q => m.deliver signal q
    | none => m) m

/-- The processes that an argument names, zero standing for all of them. -/
def pidsOf (m : Machine) (text : String) : List Nat :=
  match text.toNat? with
  | some 0 => m.processes.map (·.pid)
  | some pid => if (m.process? pid).isSome ∨ (m.ending? pid).isSome then [pid] else []
  | none => []

def send (m : Machine) (p : Process) (signal : Nat) (args : List String) : Turn :=
  let found := args.map (pidsOf m)
  let status := if found.all fun pids => !pids.isEmpty then 0 else 1
  let m := sendTo (m.update (p.goto (.done status))) signal found.flatten
  ⟨m, m.process? p.pid⟩

def kill (m : Machine) (p : Process) (args : List String) : Turn :=
  let bad (text : String) : Turn :=
    Turn.complain m p ("kill: invalid signal number or name: " ++ text) 2
  match args with
  | [] => Turn.complain m p "Usage: kill [-s sigspec | -signum | -sigspec] [pid | job]..." 2
  | "-l" :: _ =>
    Turn.print m p (String.join ((Signal.names.drop 1).map fun s => s.2 ++ "\n"))
  | "-s" :: name :: rest =>
    match Signal.ofText? name with
    | some signal => send m p signal rest
    | none => bad name
  | "--" :: rest => send m p Signal.term rest
  | a :: rest =>
    match a.toList with
    | '-' :: name =>
      match Signal.ofText? (String.ofList name) with
      | some signal => send m p signal (if rest.head? = some "--" then rest.drop 1 else rest)
      | none => bad (String.ofList name)
    | _ => send m p Signal.term (a :: rest)

def setTraps (action : Option String) (names : List String) (e : Env) : Option Env :=
  names.foldlM (fun e name => do
    let signal ← Signal.ofText? name
    let others := e.traps.filter (·.1 != signal)
    return { e with traps := match action with
      | some text => others ++ [(signal, text)]
      | none => others }) e

def trap (m : Machine) (p : Process) (args : List String) : Turn :=
  let args := if args.head? = some "--" then args.drop 1 else args
  let apply (action : Option String) (names : List String) : Turn :=
    match setTraps action names p.env with
    | some env => Turn.done m { p with env } 0
    | none => Turn.complain m p "trap: bad trap" 1
  match args with
  | [] =>
    let traps := p.env.traps.mergeSort fun a b => decide (a.1 ≤ b.1)
    Turn.print m p (String.join (traps.map fun (n, text) =>
      "trap -- " ++ quoted text ++ " " ++ Signal.name n ++ "\n"))
  | [name] => apply none [name]
  | "-" :: names => apply none names
  | action :: names =>
    if action.toNat?.isSome then apply none (action :: names) else apply (some action) names

def wait (m : Machine) (p : Process) (args : List String) : Turn :=
  match args with
  | [] => Turn.stay m (p.goto (.linger (m.children p.pid) true))
  | args =>
    match args.mapM (·.toNat?) with
    | none => Turn.complain m p "wait: No such job" 2
    | some pids =>
      let known := m.children p.pid
      if pids.all known.contains then Turn.stay m (p.goto (.linger pids false))
      else Turn.done m p 127

def describe (p : Process) (name : String) (isLong : Bool) : Option String :=
  if (p.env.functions? name).isSome then
    some (if isLong then name ++ " is a shell function" else name)
  else if isSpecial name then
    some (if isLong then name ++ " is a special shell builtin" else name)
  else if isBuiltin name then some (if isLong then name ++ " is a shell builtin" else name)
  else
    (Files.programPath? name).map fun path => if isLong then name ++ " is " ++ path else path

def describeAll (m : Machine) (p : Process) (isLong : Bool) (names : List String) : Turn :=
  let found := names.map fun n => (n, describe p n isLong)
  let lines := found.filterMap fun
    | (_, some text) => some (text ++ "\n")
    | (n, none) => if isLong then some (n ++ ": not found\n") else none
  Turn.write m p 1 (String.join lines).toList (if found.all (·.2.isSome) then 0 else 127)

/-- One step of reading options: the variable for the option, its argument, and the place of the
next one as the number of an argument and of a character in it. -/
structure OptionStep where
  found : String
  argument : Option String
  index : Nat
  place : Nat
  isOver : Bool

def nextOption (letters : List Char) (args : List String) (index place : Nat) : OptionStep :=
  let isSilent := letters.head? = some ':'
  match args[index - 1]? with
  | none => ⟨"?", none, index, 0, true⟩
  | some a =>
    match a.toList with
    | '-' :: c :: more =>
      if place = 0 ∧ c = '-' ∧ more.isEmpty then ⟨"?", none, index + 1, 0, true⟩
      else
        let here := max place 1
        let letter := (a.toList[here]?).getD '?'
        let isLast := (c :: more).length ≤ here
        let (index', place') := if isLast then (index + 1, 0) else (index, here + 1)
        let known := letters.dropWhile (· ≠ letter)
        if known.isEmpty ∨ letter = ':' then
          ⟨"?", if isSilent then some (String.singleton letter) else none, index', place', false⟩
        else if known[1]? = some ':' then
          if !isLast then
            ⟨String.singleton letter, some (String.ofList (a.toList.drop (here + 1))), index + 1, 0,
              false⟩
          else
            match args[index]? with
            | some value => ⟨String.singleton letter, some value, index + 2, 0, false⟩
            | none =>
              if isSilent then ⟨":", some (String.singleton letter), index + 1, 0, false⟩
              else ⟨"?", none, index + 1, 0, false⟩
        else ⟨String.singleton letter, none, index', place', false⟩
    | _ => ⟨"?", none, index, 0, true⟩

def getopts (m : Machine) (p : Process) (args : List String) : Turn :=
  match args with
  | letters :: name :: rest =>
    let args := if rest.isEmpty then p.env.params else rest
    let index := max 1 (((p.env.value "OPTIND").toNat?).getD 1)
    let s := nextOption letters.toList args index p.env.optionPlace
    let env := (p.env.set name s.found).set "OPTIND" (toString s.index)
    let env := match s.argument with
      | some a => env.set "OPTARG" a
      | none => env.unset "OPTARG"
    Turn.done m { p with env := { env with optionPlace := s.place } } (if s.isOver then 1 else 0)
  | _ => Turn.complain m p "Usage: getopts optstring var [arg...]" 2

def test (m : Machine) (p : Process) (words : List String) : Turn :=
  match Test.eval (Files.holds m.files m.home p.env.directory) words with
  | some true => Turn.done m p 0
  | some false => Turn.done m p 1
  | none => Turn.complain m p "test: unexpected operator" 2

def runPrintf (m : Machine) (p : Process) (args : List String) : Turn :=
  match (if args.head? = some "--" then args.drop 1 else args) with
  | [] => Turn.complain m p "printf: usage: printf format [arg ...]" 2
  | format :: rest =>
    let (output, result) := printf format rest
    Turn.write m p 1 output (match result with
      | .fine => 0
      | .badArgument => 1
      | .badFormat => 2)

def run (m : Machine) (p : Process) (name : String) (args : List String) : Turn :=
  match name with
  | ":" | "true" | "alias" | "unalias" | "hash" | "jobs" => Turn.done m p 0
  | "false" => Turn.done m p 1
  | "echo" => Turn.write m p 1 (echo args) 0
  | "printf" => runPrintf m p args
  | "test" => test m p args
  | "[" =>
    if (args.getLast?.map (·.startsWith "]")).getD false then test m p args.dropLast
    else Turn.complain m p "[: missing ]" 2
  | "exit" => status m p args .leaveShell
  | "return" => status m p args .leaveFunction
  | "break" => loops m p args .leaveLoops
  | "continue" => loops m p args .nextRound
  | "eval" => script m p (" ".intercalate args)
  | "." => source m p args
  | "shift" => shift m p args
  | "set" => set m p args
  | "unset" => unset m p args
  | "export" => declareAll m p "export" (·.isExported) Env.exportVar args
  | "readonly" =>
    declareAll m p "readonly" (·.isReadonly)
      (fun e n => e.mark n fun v => { v with isReadonly := true }) args
  | "local" => makeLocals m p args
  | "read" => read m p args
  | "cd" | "chdir" => cd m p args
  | "pwd" => Turn.print m p (p.env.directory ++ "\n")
  | "kill" => kill m p args
  | "trap" => trap m p args
  | "wait" => wait m p args
  | "type" => describeAll m p true args
  | "command" =>
    let (letters, names) := options args
    describeAll m p (letters.contains 'V') names
  | "getopts" => getopts m p args
  | "umask" => if args.isEmpty then Turn.print m p "0022\n" else Turn.done m p 0
  | "ulimit" => Turn.print m p "unlimited\n"
  | "times" => Turn.print m p "0m0.000000s 0m0.000000s\n0m0.000000s 0m0.000000s\n"
  | _ => Turn.complain m p (name ++ ": not found") 127

end Builtin

end Stepwise.Shell
