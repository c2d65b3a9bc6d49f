import Stepwise.Shell.Builtin
import Stepwise.Shell.Parser
/-!
What a process does next. Each step does a little: it begins a command, takes in what a command
has come to, moves some text, or lets a leap out of commands go all the way.
-/

namespace Stepwise.Shell

/-- How long things take, in nanoseconds. -/
structure Costs where
  step : Nat
  /-- Until a shell that has begun a new process goes on, and until the new one does. -/
  fork : Nat
  delay : Nat
  program : Nat

def Costs.standard : Costs := ⟨400, 150000, 150000, 700000⟩

namespace Process

def leave (m : Machine) (p : Process) (status : Nat) : Turn :=
  match p.env.traps.lookup Signal.exit with
  | some action =>
    let traps := p.env.traps.filter (·.1 != Signal.exit)
    let p := { p with frames := [.afterExit status], env := { p.env with traps, status } }
    Turn.stay m (p.goto (.script action.toList 0))
  | none => Turn.finish m p (.exited status)

def unwind (p : Process) : Frame → Process
  | .restore saved => p.restore saved
  | .call params => { p with env := { p.env.closeScope with params } }
  | .scope => { p with env := p.env.closeScope }
  | _ => p

def loopDepth : List Frame → Nat
  | [] => 0
  | .call _ :: _ => 0
  | .loopTest .. :: rest | .loopBody .. :: rest | .each .. :: rest => loopDepth rest + 1
  | _ :: rest => loopDepth rest

def nextRound (m : Machine) (p : Process) (name : String) (words : List String) (body : Node)
    (isTested : Bool) (status : Nat) : Turn :=
  match words with
  | [] => Turn.done m p status
  | w :: rest =>
    if p.env.isReadonly name then Turn.fail m p (name ++ ": is read only")
    else
      let p := { p with env := p.env.set name w }
      Turn.stay m ((p.push (.each name rest body isTested)).goto (.run body isTested))

def leaveLoops (m : Machine) (again : Bool) : Nat → List Frame → Process → Turn
  | _, [], p => Turn.done m { p with frames := [] } 0
  | count, f :: rest, p =>
    let p := p.unwind f
    let isLast := count ≤ 1
    let outer := { p with frames := rest }
    match f with
    | .loopTest isUntil test body isTested _ | .loopBody isUntil test body isTested =>
      if !isLast then leaveLoops m again (count - 1) rest p
      else if again then
        Turn.stay m ((outer.push (.loopTest isUntil test body isTested 0)).goto (.run test true))
      else Turn.done m outer 0
    | .each name words body isTested =>
      if !isLast then leaveLoops m again (count - 1) rest p
      else if again then nextRound m outer name words body isTested 0
      else Turn.done m outer 0
    | _ => leaveLoops m again count rest p

def leaveFunction (m : Machine) (status : Nat) : List Frame → Process → Turn
  | [], p => Turn.leap m { p with frames := [] } (.leaveShell status)
  | f :: rest, p =>
    match f with
    | .call _ => Turn.done m { p.unwind f with frames := rest } status
    | _ => leaveFunction m status rest (p.unwind f)

def leaveShell (m : Machine) (status : Nat) : List Frame → Process → Turn
  | [], p => leave m { p with frames := [] } status
  | f :: rest, p =>
    match f with
    | .afterExit _ => Turn.finish m p (.exited status)
    | _ => leaveShell m status rest (p.unwind f)

def leap (m : Machine) (p : Process) : Leap → Turn
  | .leaveLoops count =>
    let depth := loopDepth p.frames
    if depth = 0 then Turn.done m p 0 else leaveLoops m false (min count depth) p.frames p
  | .nextRound count =>
    let depth := loopDepth p.frames
    if depth = 0 then Turn.done m p 0 else leaveLoops m true (min count depth) p.frames p
  | .leaveFunction status => leaveFunction m status p.frames p
  | .leaveShell status => leaveShell m status p.frames p

def answerSignal? (p : Process) (status : Nat) : Option Process :=
  match p.signals with
  | [] => none
  | signal :: rest =>
    let p := { p with signals := rest }
    match p.env.traps.lookup signal with
    | some action => some ((p.push (.afterTrap status)).goto (.script action.toList 0))
    | none => some (p.goto (.done status))

def checked (p : Process) (isTested : Bool) : Process :=
  if isTested then p else p.push .checkFailure

def startStages (costs : Costs) (m : Machine) (p : Process) (isTested : Bool)
    (input? : Option Descriptor) : List Node → List Nat × Machine
  | [] => ([], m)
  | [last] =>
    let q := match input? with
      | some d => p.setDescriptor 0 d
      | none => p
    let (pid, m) := m.fork p costs.delay (.run last isTested) q.descriptors p.env.forked
    ([pid], m)
  | stage :: rest =>
    let q := match input? with
      | some d => p.setDescriptor 0 d
      | none => p
    let (pipe, m) := m.newPipe
    let (pid, m) :=
      m.fork p costs.delay (.run stage isTested)
        (q.setDescriptor 1 (some (.writeEnd pipe))).descriptors p.env.forked
    let (pids, m) := startStages costs m p isTested (some (.readEnd pipe)) rest
    (pid :: pids, m)

def begin (costs : Costs) (m : Machine) (p : Process) (isTested : Bool) : Node → Turn
  | .nothing => Turn.done m p 0
  | .simple assigns words redirects =>
    Turn.stay m ((p.checked isTested).goto (.expand (.simple assigns words redirects) [] isTested))
  | .seq first second =>
    Turn.stay m ((p.push (.seq second isTested)).goto (.run first isTested))
  | .both first second => Turn.stay m ((p.push (.both second isTested)).goto (.run first true))
  | .either first second => Turn.stay m ((p.push (.either second isTested)).goto (.run first true))
  | .not body => Turn.stay m ((p.push .not).goto (.run body true))
  | .pipeline stages =>
    let p := p.spend (costs.fork * stages.length)
    let (pids, m) := startStages costs m p isTested none stages
    Turn.stay m ((p.checked isTested).goto (.await pids))
  | .background body =>
    let p := p.spend costs.fork
    let env := p.env.forked
    let traps := (2, "") :: (3, "") :: env.traps.filter fun t => t.1 != 2 && t.1 != 3
    let (pid, m) :=
      m.fork p costs.delay (.run body false) (p.setDescriptor 0 (some .null)).descriptors
        { env with traps }
    Turn.done m { p with env := { p.env with lastJob := some pid } } 0
  | .subshell body =>
    let p := p.spend costs.fork
    let (pid, m) := m.fork p costs.delay (.run body isTested) p.descriptors p.env.forked
    Turn.stay m ((p.checked isTested).goto (.await [pid]))
  | .redirected body redirects =>
    Turn.stay m (p.goto (.expand (.redirected body redirects) [] isTested))
  | .branch test onTrue onFalse =>
    Turn.stay m ((p.push (.branch onTrue onFalse isTested)).goto (.run test true))
  | .loop isUntil test body =>
    Turn.stay m ((p.push (.loopTest isUntil test body isTested 0)).goto (.run test true))
  | .each name none body => nextRound m p name p.env.params body isTested 0
  | .each name (some words) body =>
    Turn.stay m (p.goto (.expand (.each name words body) [] isTested))
  | .select word clauses => Turn.stay m (p.goto (.expand (.select word clauses) [] isTested))
  | .define name body =>
    let functions := (name, body) :: p.env.functions.filter (·.1 != name)
    Turn.done m { p with env := { p.env with functions } } 0

def startShell (m : Machine) (p : Process) (name : String) (args : List String) : Turn :=
  let rec read (letters : List Char) : List String → Except String (List Char × List String)
    | "-o" :: option :: rest =>
      match Builtin.listedOptions.lookup option with
      | some c => read (letters ++ [c]) rest
      | none => .error ("Illegal option -o " ++ option)
    | "--" :: rest => .ok (letters, rest)
    | a :: rest =>
      match a.toList with
      | '-' :: c :: more =>
        match (c :: more).find? fun d => !(d = 'c' || d = 'l' ||
            Builtin.listedOptions.any (·.2 == d)) with
        | some bad => .error ("Illegal option -" ++ String.singleton bad)
        | none => read (letters ++ c :: more) rest
      | _ => .ok (letters, a :: rest)
    | [] => .ok (letters, [])
  let start (letters : List Char) (zero : String) (params : List String) (text : List Char) :
      Turn :=
    let options := letters.filter fun c => c != 'c' && c != 'l'
    let env := Env.initial p.env.vars zero params options p.pid p.env.directory
    let traps := p.env.traps
    Turn.stay m { p with env := { env with traps }, frames := [], control := .script text 0 }
  let p := { p with env := { p.env with name } }
  match read [] args with
  | .error message => Turn.complain m { p with frames := [] } message 2
  | .ok (letters, operands) =>
    if letters.contains 'c' then
      match operands with
      | [] => Turn.complain m { p with frames := [] } "-c requires an argument" 2
      | [text] => start letters name [] text.toList
      | text :: zero :: params => start letters zero params text.toList
    else
      match operands with
      | [] => Turn.stay m { p with frames := [], control := .gather [] }
      | path :: params =>
        match m.files.get? (Files.absolute p.env.directory path) with
        | some text => start letters path params text.toList
        | none =>
          Turn.complain m { p with frames := [] } ("cannot open " ++ path ++ ": No such file") 2

def duration? (text : String) : Option Nat :=
  let cs := text.toList
  let whole := cs.takeWhile Char.isDigit
  let rest := cs.drop whole.length
  let (fraction, rest) : List Char × List Char :=
    match rest with
    | '.' :: more => (more.takeWhile Char.isDigit, more.dropWhile Char.isDigit)
    | rest => ([], rest)
  let unit? : Option Nat :=
    match rest with
    | [] | ['s'] => some 1
    | ['m'] => some 60
    | ['h'] => some 3600
    | ['d'] => some 86400
    | _ => none
  if text = "infinity" ∨ text = "inf" then some (Nat.pow 10 30)
  else if whole.isEmpty ∧ fraction.isEmpty then none
  else
    unit?.map fun unit =>
      let digits := Arith.ofDigits 10 ((whole ++ fraction).map fun d => d.toNat - 48)
      digits * unit * 1000000000 / Nat.pow 10 fraction.length

def sleep (m : Machine) (p : Process) (args : List String) : Turn :=
  match args with
  | [] => Turn.write m p 2 "sleep: missing operand\n".toList 1
  | args =>
    match args.mapM duration? with
    | some times => Turn.done m (p.spend (times.foldl (· + ·) 0)) 0
    | none => Turn.write m p 2 "sleep: invalid time interval\n".toList 1

def program (costs : Costs) (m : Machine) (p : Process) (argv : List String) : Turn :=
  let p := p.spend costs.program
  let p :=
    { p with frames := [], signals := [], env := { p.env.forked with vars := p.env.exported } }
  match argv with
  | [] => Turn.finish m p (.exited 0)
  | name :: args =>
    let found :=
      if name.toList.contains '/' then Files.program? (Files.absolute p.env.directory name)
      else if Files.programs.contains name then some name
      else none
    match found with
    | some "cat" =>
      let paths := args.filter fun a => a != "-u" && a != "--"
      Turn.stay m (p.goto (.copy none (if paths.isEmpty then ["-"] else paths) 0))
    | some "sleep" => sleep m p args
    | some "echo" => Turn.write m p 1 (plainEcho args) 0
    | some "printf" => Builtin.runPrintf m p args
    | some "true" => Turn.done m p 0
    | some "false" => Turn.done m p 1
    | some "test" => Builtin.run m p "test" args
    | some "[" => Builtin.run m p "[" args
    | some _ => startShell m p name args
    | none =>
      let whole := Files.absolute p.env.directory name
      if name.toList.contains '/' ∧ Files.exists? m.files m.home whole then
        Turn.complain m p (name ++ ": Permission denied") 126
      else Turn.complain m p (name ++ ": not found") 127

def withAssigns (p : Process) (assigns : List (String × String)) : Process :=
  if assigns.isEmpty then p
  else
    let env :=
      assigns.foldl (fun e (name, value) => ((e.makeLocal name).set name value).exportVar name)
        p.env.openScope
    { p.push .scope with env }

def assignAll (e : Env) (assigns : List (String × String)) : Env :=
  assigns.foldl (fun e (name, value) => e.set name value) e

def call (m : Machine) (p : Process) (body : Node) (args : List String)
    (assigns : List (String × String)) (isTested : Bool) : Turn :=
  let env :=
    assigns.foldl (fun e (name, value) => (e.makeLocal name).set name value) p.env.openScope
  let p := p.push (.call p.env.params)
  Turn.stay m ({ p with env := { env with params := args } }.goto (.run body isTested))

/-- Whether a shell has nothing to do after the command that it is at, so that a program may take
its place. -/
def isLast (p : Process) : Bool :=
  p.env.traps.all (·.2.isEmpty) &&
    p.frames.all fun
      | .checkFailure => true
      | .script rest => (Parser.skipLines rest).isEmpty
      | _ => false

/-- Carries out a command of words that have been expanded; functions may be kept out of the
way. -/
def dispatch (costs : Costs) (m : Machine) (p : Process) (argv : List String) (isDirect : Bool)
    (assigns : List (String × String)) (openings : List Opening) (isTested : Bool) : Turn :=
  match argv with
  | [] => Turn.done m p 0
  | name :: args =>
    let function? := if isDirect ∨ Builtin.isSpecial name then none else p.env.functions? name
    if name = "exec" then
      match p.redirect m [] openings with
      | (r, some message) => Turn.fail r.machine r.process message
      | (⟨q, m, _⟩, none) =>
        let q := { q with env := assignAll q.env assigns }
        match (if args.head? = some "--" then args.drop 1 else args) with
        | [] => Turn.done m q 0
        | argv =>
          program costs m
            { q with env := assigns.foldl (fun e (name, _) => e.exportVar name) q.env } argv
    else if function?.isSome ∨ Builtin.isBuiltin name then
      match p.redirect m [] openings with
      | (r, some message) =>
        if Builtin.isSpecial name then Turn.fail r.machine r.process message
        else Turn.refuse r message
      | (⟨q, m, saved⟩, none) =>
        let q := if saved.isEmpty then q else q.push (.restore saved)
        match function? with
        | some body => call m q body args assigns isTested
        | none =>
          if Builtin.isSpecial name then
            Builtin.run m { q with env := assignAll q.env assigns } name args
          else Builtin.run m (q.withAssigns assigns) name args
    else
      match p.redirect m [] openings with
      | (r, some message) => Turn.refuse r message
      | (⟨q, m, _⟩, none) =>
        let env := assigns.foldl (fun e (name, value) => (e.set name value).exportVar name) p.env
        if p.isLast then program costs m { q with env } argv
        else
          let p := p.spend costs.fork
          let (pid, m) := m.fork p costs.delay (.done 0) q.descriptors env.forked
          match m.process? pid with
          | some child => Turn.stay (program costs m child argv).settle (p.goto (.await [pid]))
          | none => Turn.done m p 127

def resume (costs : Costs) (m : Machine) (p : Process) (status : Nat) : Turn :=
  let p := p.setStatus status
  match p.answerSignal? status with
  | some p => Turn.stay m p
  | none =>
    match p.frames with
    | [] => leave m p status
    | f :: rest =>
      let p := { p with frames := rest }
      let run (node : Node) (isTested : Bool) : Turn := Turn.stay m (p.goto (.run node isTested))
      match f with
      | .seq next isTested => run next isTested
      | .both next isTested => if status = 0 then run next isTested else Turn.done m p status
      | .either next isTested => if status = 0 then Turn.done m p status else run next isTested
      | .not => Turn.done m p (if status = 0 then 1 else 0)
      | .branch onTrue onFalse isTested => run (if status = 0 then onTrue else onFalse) isTested
      | .loopTest isUntil test body isTested last =>
        if (status = 0) ≠ isUntil then
          Turn.stay m ((p.push (.loopBody isUntil test body isTested)).goto (.run body isTested))
        else Turn.done m p last
      | .loopBody isUntil test body isTested =>
        Turn.stay m ((p.push (.loopTest isUntil test body isTested status)).goto (.run test true))
      | .each name words body isTested => nextRound m p name words body isTested status
      | .restore _ => Turn.done m.sweep (p.unwind f) status
      | .call _ | .scope => Turn.done m (p.unwind f) status
      | .script text => Turn.stay m (p.goto (.script text status))
      | .checkFailure =>
        if status ≠ 0 ∧ p.env.hasOption 'e' then Turn.leap m p (.leaveShell status)
        else Turn.done m p status
      | .afterTrap before => Turn.done m p before
      | .afterExit status => Turn.finish m p (.exited status)
      | .copy d paths status => Turn.stay m (p.goto (.copy d paths status))
      | .fatal => Turn.leap m p (.leaveShell status)
      | .command argv isDirect assigns openings isTested =>
        dispatch costs m p argv isDirect assigns openings isTested

def plainCommand : List String → List String
  | "command" :: rest =>
    match rest with
    | "-p" :: more => plainCommand more
    | "--" :: more => plainCommand more
    | a :: more => if a.startsWith "-" then "command" :: rest else plainCommand (a :: more)
    | [] => [":"]
  | argv => argv

def trace (p : Process) (assigns : List (String × String)) (argv : List String) : String :=
  if p.env.hasOption 'x' then
    (p.env.value? "PS4").getD "+ " ++
      " ".intercalate (assigns.map (fun (name, value) => name ++ "=" ++ value) ++ argv) ++ "\n"
  else ""

def pursue (costs : Costs) (m : Machine) (p : Process) (answers : List Answer) (isTested : Bool)
    (goal : Goal) : Except Halt Turn :=
  let start : Expansion := ⟨p.env, answers, none⟩
  let listing := Files.listing m.files p.env.directory
  match goal with
  | .simple assigns words redirects => do
    let ((argv, openings), s) ←
      (do
        let argv ← Expand.words listing words
        let openings ← redirects.mapM Expand.opening
        return (argv, openings) : Expand _).run start
    let (values, after) ← (Expand.assigns assigns).run s
    match argv with
    | [] =>
      let p := { p with env := after.env }
      match p.redirect m [] openings with
      | (⟨_, m, _⟩, none) =>
        return Turn.write m p 2 (trace p values []).toList (after.status.getD 0)
      | (r, some message) => return Turn.refuse r message
    | argv =>
      let p := { p with env := s.env }
      let direct := plainCommand argv
      let isDirect := direct.length < argv.length
      let traced := trace p values argv
      if traced.isEmpty then return dispatch costs m p direct isDirect values openings isTested
      else
        return Turn.write m (p.push (.command direct isDirect values openings isTested)) 2
          traced.toList p.env.status
  | .each name words body => do
    let (fields, s) ← (Expand.words listing words).run start
    return nextRound m { p with env := s.env } name fields body isTested 0
  | .select word clauses => do
    let (body, s) ← (Expand.clause word clauses).run start
    let p := { p with env := s.env }
    match body with
    | some body => return Turn.stay m (p.goto (.run body isTested))
    | none => return Turn.done m p 0
  | .redirected body redirects => do
    let (openings, s) ← (redirects.mapM Expand.opening).run start
    let p := { p with env := s.env }
    match p.redirect m [] openings with
    | (⟨q, m, saved⟩, none) =>
      return Turn.stay m ((q.push (.restore saved)).goto (.run body isTested))
    | (r, some message) => return Turn.refuse r message

def expand (costs : Costs) (m : Machine) (p : Process) (goal : Goal) (answers : List Answer)
    (isTested : Bool) : Turn :=
  match pursue costs m p answers isTested goal with
  | .ok t => t
  | .error (.failed message) => Turn.fail m p message
  | .error (.needs body) =>
    let p := p.spend costs.fork
    let (pipe, m) := m.newPipe
    let (pid, m) :=
      m.fork p costs.delay (.run body false) (p.setDescriptor 1 (some (.writeEnd pipe))).descriptors
        p.env.forked
    Turn.stay m (p.goto (.collect pid pipe [] goal answers isTested))

def answerText (reversed : List Char) : String :=
  String.ofList ((reversed.dropWhile (· = '\n')).reverse.filter (· ≠ '\x00'))

def readOn (m : Machine) (p : Process) (r : Reading) : Turn :=
  let finish (m : Machine) (status : Nat) : Turn :=
    let env := Builtin.assignFields p.env.separators p.env r.taken.reverse r.names
    Turn.done m { p with env } status
  match p.descriptor? 0 with
  | none => finish m 1
  | some d =>
    match m.take 1 d with
    | ([], m) => finish m 1
    | ('\x00' :: _, m) => Turn.stay m (p.goto (.read r))
    | (c :: _, m) =>
      if r.escaping then
        if c = '\n' then Turn.stay m (p.goto (.read { r with escaping := false }))
        else
          Turn.stay m (p.goto (.read { r with taken := (c, true) :: r.taken, escaping := false }))
      else if c = '\n' then finish m 0
      else if c = '\\' ∧ !r.isRaw then Turn.stay m (p.goto (.read { r with escaping := true }))
      else Turn.stay m (p.goto (.read { r with taken := (c, false) :: r.taken }))

def gatherOn (m : Machine) (p : Process) (text : List Char) : Turn :=
  match (p.descriptor? 0).map (m.take Machine.capacity) with
  | none | some ([], _) =>
    let env := Env.initial p.env.vars p.env.name [] [] p.pid p.env.directory
    Turn.stay m ({ p with env := { env with traps := p.env.traps } }.goto (.script text.reverse 0))
  | some (more, m) => Turn.stay m (p.goto (.gather (more.reverse ++ text)))

def copyOn (m : Machine) (p : Process) (from? : Option Descriptor) (paths : List String)
    (status : Nat) : Turn :=
  match from? with
  | some d =>
    match m.take Machine.capacity d with
    | ([], m) => Turn.stay m (p.goto (.copy none paths status))
    | (text, m) => Turn.stay m ((p.push (.copy (some d) paths status)).goto (.write 1 text 0))
  | none =>
    let missing (path rest : _) (why : String) : Turn :=
      Turn.write m (p.push (.copy none rest 1)) 2 ("cat: " ++ path ++ ": " ++ why ++ "\n").toList 1
    match paths with
    | [] => Turn.done m p status
    | "-" :: rest =>
      match p.descriptor? 0 with
      | some d => Turn.stay m (p.goto (.copy (some d) rest status))
      | none => missing "-" rest "Bad file descriptor"
    | path :: rest =>
      if Files.isDirectory m.files m.home (Files.absolute p.env.directory path) then
        missing path rest "Is a directory"
      else
        match p.openInput m path with
        | .ok (.source id, m) =>
          Turn.stay m ((p.setDescriptor 3 (some (.source id))).goto
            (.copy (some (.source id)) rest status))
        | .ok (d, m) => Turn.stay m (p.goto (.copy (some d) rest status))
        | .error _ => missing path rest "No such file or directory"

def awaited (m : Machine) (p : Process) (children : List Nat) : Turn :=
  let ending := (children.getLast?.bind m.ending?).getD (.exited 0)
  let m := m.forget children
  match ending with
  | .exited status => Turn.done m p status
  | .killed signal =>
    match Signal.descriptions.lookup signal with
    | some text => Turn.write m p 2 (text ++ "\n").toList (128 + signal)
    | none => Turn.done m p (128 + signal)

def lingered (m : Machine) (p : Process) (children : List Nat) (areAll : Bool) : Turn :=
  if children.all fun c => (m.process? c).isNone then
    let endings := children.filterMap m.ending?
    let told := endings.filterMap fun
      | .killed signal => Signal.descriptions.lookup signal
      | .exited _ => none
    let status := (endings.getLast?.map (·.status)).getD 0
    Turn.write (m.forget children) p 2 (String.join (told.map (· ++ "\n"))).toList
      (if areAll then 0 else status)
  else
    match p.signals with
    | signal :: _ => Turn.done m p (128 + signal)
    | [] => Turn.stay m p

def readScript (m : Machine) (p : Process) (text : List Char) (status : Nat) : Turn :=
  match readLine text with
  | .finished => Turn.done m p status
  | .malformed => Turn.fail m p "Syntax error"
  | .line node rest => Turn.stay m ((p.push (.script rest)).goto (.run node false))

def writeOn (m : Machine) (p : Process) (fd : Nat) (output : List Char) (status : Nat) :
    Except RunError Turn := do
  match ← m.put output (p.descriptor? fd) with
  | (.rest [], m) => return Turn.done m p status
  | (.rest rest, m) => return Turn.stay m (p.goto (.write fd rest status))
  | (.notOpen, m) => return Turn.done m p (if fd = 2 then status else 1)
  | (.noReader, m) =>
    match p.env.traps.lookup Signal.pipe with
    | some _ => return Turn.done m p 1
    | none => return Turn.finish m p (.killed Signal.pipe)

def step (costs : Costs) (m : Machine) (p : Process) : Except RunError Turn :=
  let p := p.spend costs.step
  match p.control with
  | .run node isTested =>
    .ok (if p.env.hasOption 'n' then Turn.done m p 0 else begin costs m p isTested node)
  | .expand goal answers isTested => .ok (expand costs m p goal answers isTested)
  | .collect child pipe output goal answers isTested =>
    match m.take Machine.capacity (.readEnd pipe) with
    | ([], m) =>
      let status := ((m.ending? child).map (·.status)).getD 0
      let answers := answers ++ [⟨answerText output, status⟩]
      .ok (Turn.stay (m.forget [child]) (p.goto (.expand goal answers isTested)))
    | (text, m) =>
      .ok (Turn.stay m (p.goto
        (.collect child pipe (text.reverse ++ output) goal answers isTested)))
  | .await children => .ok (awaited m p children)
  | .linger children areAll => .ok (lingered m p children areAll)
  | .write fd output status => writeOn m p fd output status
  | .read r => .ok (readOn m p r)
  | .copy d paths status => .ok (copyOn m p d paths status)
  | .gather text => .ok (gatherOn m p text)
  | .script text status => .ok (readScript m p text status)
  | .leap l => .ok (leap m p l)
  | .done status => .ok (resume costs m p status)
  | .stopped => .ok (Turn.stay m p)

end Process

end Stepwise.Shell
