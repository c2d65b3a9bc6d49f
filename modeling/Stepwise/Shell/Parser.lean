import Stepwise.Shell.Tree
/-!
Reading shell text. A text is read one line at a time, where a line is as much of it as makes
whole commands; `readLine` gives the next one and the text after it. A here-document is taken out
of the text as soon as its operator is read, so that the rest of the operator's line goes on after
it. Fuel bounds the depth of the recursion and is never reached: each call gets less text or less
to do with it.
-/

namespace Stepwise.Shell

namespace Parser

abbrev Text := List Char

def isSpace (c : Char) : Bool := c = ' ' || c = '\t'

def endsWord (c : Char) : Bool :=
  isSpace c || c = '\n' || c = ';' || c = '&' || c = '|' || c = '(' || c = ')' || c = '<' || c = '>'

def isNameStart (c : Char) : Bool := c.isAlpha || c = '_'

def isNameChar (c : Char) : Bool := c.isAlphanum || c = '_'

/-- Drops blanks, comments and, if `lines`, line ends before a token. -/
def skip (lines inComment : Bool) : Text → Text
  | [] => []
  | c :: rest =>
    if c = '\n' then if lines then skip lines false rest else c :: rest
    else if inComment ∨ c = '#' then skip lines true rest
    else if isSpace c then skip lines false rest
    else
      match c, rest with
      | '\\', '\n' :: after => skip lines false after
      | c, rest => c :: rest

def skipBlanks (cs : Text) : Text := skip false false cs

def skipLines (cs : Text) : Text := skip true false cs

def isPlain (c : Char) : Bool :=
  !(endsWord c || c = '\x27' || c = '"' || c = '\\' || c = '$' || c = '\x60')

/-- The word at the front of a text if no part of it is quoted or expanded. -/
def plainWord (cs : Text) : String × Text :=
  let run := cs.takeWhile isPlain
  let rest := cs.drop run.length
  match rest with
  | [] => (String.ofList run, [])
  | c :: _ => if endsWord c then (String.ofList run, rest) else ("", cs)

/-- Words that end a list of commands where a command could begin. -/
def closers : List String := ["then", "else", "elif", "fi", "do", "done", "esac", "\x7d"]

def atEnd (cs : Text) : Bool :=
  match cs with
  | [] => true
  | ')' :: _ => true
  | ';' :: ';' :: _ => true
  | cs => closers.contains (plainWord cs).1

def keyword? (word : String) (cs : Text) : Option Text :=
  let (found, rest) := plainWord (skipLines cs)
  if found = word then some rest else none

def pushChar (c : Char) (isQuoted : Bool) : List Part → List Part
  | .text s q :: rest =>
    if q = isQuoted then .text (s.push c) q :: rest
    else .text (String.singleton c) isQuoted :: .text s q :: rest
  | parts => .text (String.singleton c) isQuoted :: parts

def upToQuote (done : Text) : Text → Option (Text × Text)
  | [] => none
  | '\x27' :: rest => some (done.reverse, rest)
  | c :: rest => upToQuote (c :: done) rest

def upToBackquote (inQuotes : Bool) (done : Text) : Text → Option (Text × Text)
  | [] => none
  | '\x60' :: rest => some (done.reverse, rest)
  | '\\' :: c :: rest =>
    if c = '$' ∨ c = '\x60' ∨ c = '\\' ∨ c = '"' ∧ inQuotes then
      upToBackquote inQuotes (c :: done) rest
    else upToBackquote inQuotes (c :: '\\' :: done) rest
  | c :: rest => upToBackquote inQuotes (c :: done) rest

inductive Quoting where
  | none
  | single
  | double
  | comment
  deriving DecidableEq

def splitLine (quoting : Quoting) (done : Text) : Text → Text × Text
  | [] => (done.reverse, [])
  | '\n' :: rest =>
    if quoting = .single ∨ quoting = .double then splitLine quoting ('\n' :: done) rest
    else (done.reverse, rest)
  | '\\' :: c :: rest =>
    if quoting = .single ∨ quoting = .comment then
      match c with
      | '\x27' =>
        splitLine (if quoting = .single then .none else quoting) ('\x27' :: '\\' :: done) rest
      | '\n' => if quoting = .comment then (('\\' :: done).reverse, rest)
        else splitLine quoting ('\n' :: '\\' :: done) rest
      | c => splitLine quoting (c :: '\\' :: done) rest
    else splitLine quoting (c :: '\\' :: done) rest
  | c :: rest =>
    let next : Quoting :=
      match quoting with
      | .none =>
        if c = '\x27' then .single
        else if c = '"' then .double
        else if c = '#' ∧ (done.head?.map isSpace).getD true then .comment
        else .none
      | .single => if c = '\x27' then .none else .single
      | .double => if c = '"' then .none else .double
      | .comment => .comment
    splitLine next (c :: done) rest

def untab (strip : Bool) (line : Text) : Text :=
  if strip then line.dropWhile (· = '\t') else line

def hereBody (delimiter : Option Text) (strip : Bool) (line done : Text) : Text → Text × Text
  | [] =>
    let last := untab strip line.reverse
    if delimiter = some last then (done.reverse, []) else ((last.reverse ++ done).reverse, [])
  | '\n' :: rest =>
    let last := untab strip line.reverse
    if delimiter = some last then (done.reverse, rest)
    else hereBody delimiter strip [] ('\n' :: last.reverse ++ done) rest
  | c :: rest => hereBody delimiter strip (c :: line) done rest

def unquoted (parts : List Part) : Text × Bool :=
  (parts.flatMap fun
    | .text s _ => s.toList
    | _ => [],
   parts.any fun
    | .text _ q => q
    | _ => false)

/-- Where parts stand: that decides what ends them and what quotes them. -/
inductive Place where
  | word
  | quotes
  | here
  /-- Inside an arithmetic expansion, under so many open parentheses. -/
  | arithmetic (depth : Nat)
  | braces (isQuoted : Bool)
  deriving DecidableEq

namespace Place

def isQuoted : Place → Bool
  | word => false
  | braces q => q
  | _ => true

def escapes (p : Place) (c : Char) : Bool :=
  match p with
  | word => true
  | braces false => true
  | quotes | arithmetic _ => c = '$' || c = '\x60' || c = '"' || c = '\\'
  | here => c = '$' || c = '\x60' || c = '\\'
  | braces true => c = '$' || c = '\x60' || c = '"' || c = '\\' || c = '\x7d'

end Place

def assignment? (cs : Text) : Option (String × Text) :=
  match cs with
  | [] => none
  | c :: _ =>
    if isNameStart c then
      let name := cs.takeWhile isNameChar
      match cs.drop name.length with
      | '=' :: rest => some (String.ofList name, rest)
      | _ => none
    else none

def paramName? (braced : Bool) (cs : Text) : Option (String × Text) :=
  match cs with
  | [] => none
  | c :: rest =>
    if isNameStart c then
      let name := cs.takeWhile isNameChar
      some (String.ofList name, cs.drop name.length)
    else if c.isDigit then
      if braced then
        let name := cs.takeWhile Char.isDigit
        some (String.ofList name, cs.drop name.length)
      else some (String.singleton c, rest)
    else if c = '@' ∨ c = '*' ∨ c = '#' ∨ c = '?' ∨ c = '-' ∨ c = '$' ∨ c = '!' then
      some (String.singleton c, rest)
    else none

inductive Operator where
  | default (orEmpty : Bool)
  | assign (orEmpty : Bool)
  | require (orEmpty : Bool)
  | alternative (orEmpty : Bool)
  | strip (fromEnd longest : Bool)

def operator? : Text → Option (Operator × Text)
  | ':' :: '-' :: rest => some (.default true, rest)
  | '-' :: rest => some (.default false, rest)
  | ':' :: '=' :: rest => some (.assign true, rest)
  | '=' :: rest => some (.assign false, rest)
  | ':' :: '?' :: rest => some (.require true, rest)
  | '?' :: rest => some (.require false, rest)
  | ':' :: '+' :: rest => some (.alternative true, rest)
  | '+' :: rest => some (.alternative false, rest)
  | '%' :: '%' :: rest => some (.strip true true, rest)
  | '%' :: rest => some (.strip true false, rest)
  | '#' :: '#' :: rest => some (.strip false true, rest)
  | '#' :: rest => some (.strip false false, rest)
  | _ => none

def Operator.form (word : Word) : Operator → Form
  | default e => .default e word
  | assign e => .assign e word
  | require e => .require e word
  | alternative e => .alternative e word
  | strip e l => .strip e l word

/-- Patterns are read as outside quotes even where their parameter is quoted. -/
def Operator.place (isQuoted : Bool) : Operator → Place
  | strip .. => .braces false
  | _ => .braces isQuoted

/-- The descriptor in front of a redirection, which is one digit, and the text from its operator
on. -/
def redirectStart? (cs : Text) : Option (Option Nat × Text) :=
  let isOperator (c : Char) : Bool := c = '<' || c = '>'
  match cs with
  | c :: d :: rest =>
    if isOperator c then some (none, cs)
    else if c.isDigit ∧ isOperator d then some (some (c.toNat - 48), d :: rest)
    else none
  | [c] => if isOperator c then some (none, cs) else none
  | [] => none

mutual

/-- Parts up to what ends them where they stand, those so far in reverse. -/
def parts (fuel : Nat) (place : Place) (done : List Part) (cs : Text) : Option (List Part × Text) :=
  match fuel with
  | 0 => none
  | fuel + 1 =>
    match cs with
    | [] => if place = .word ∨ place = .here then some (done.reverse, []) else none
    | '\\' :: '\n' :: rest => parts fuel place done rest
    | '\\' :: c :: rest =>
      if place.escapes c then parts fuel place (pushChar c true done) rest
      else parts fuel place (pushChar '\\' true done) (c :: rest)
    | '$' :: rest => do
      let (part, rest) ← dollar fuel place.isQuoted rest
      match part with
      | some part => parts fuel place (part :: done) rest
      | none => parts fuel place (pushChar '$' place.isQuoted done) rest
    | '\x60' :: rest => do
      let (text, rest) ← upToBackquote (place = .quotes) [] rest
      let body ← whole fuel text
      parts fuel place (.output body place.isQuoted :: done) rest
    | c :: rest =>
      match place with
      | .word => if endsWord c then some (done.reverse, cs) else quotable fuel place done c rest
      | .quotes =>
        if c = '"' then some (done.reverse, rest)
        else parts fuel place (pushChar c true done) rest
      | .here => parts fuel place (pushChar c true done) rest
      | .arithmetic depth =>
        if c = '(' then parts fuel (.arithmetic (depth + 1)) (pushChar c true done) rest
        else if c = ')' then
          match depth, rest with
          | 0, ')' :: rest => some (done.reverse, rest)
          | 0, _ => none
          | depth + 1, rest => parts fuel (.arithmetic depth) (pushChar c true done) rest
        else if c = '"' then parts fuel place done rest
        else parts fuel place (pushChar c true done) rest
      | .braces isQuoted =>
        if c = '\x7d' then some (done.reverse, rest)
        else if isQuoted ∧ c ≠ '"' then parts fuel place (pushChar c true done) rest
        else quotable fuel place done c rest

def quotable (fuel : Nat) (place : Place) (done : List Part) (c : Char) (rest : Text) :
    Option (List Part × Text) :=
  match fuel with
  | 0 => none
  | fuel + 1 =>
    if c = '\x27' then do
      let (text, rest) ← upToQuote [] rest
      parts fuel place (.text (String.ofList text) true :: done) rest
    else if c = '"' then do
      let (inner, rest) ← parts fuel .quotes [] rest
      let inner := if inner.isEmpty then [.text "" true] else inner
      parts fuel place (inner.reverse ++ done) rest
    else parts fuel place (pushChar c false done) rest

def dollar (fuel : Nat) (isQuoted : Bool) (cs : Text) : Option (Option Part × Text) :=
  match fuel with
  | 0 => none
  | fuel + 1 =>
    match cs with
    | '(' :: '(' :: rest => do
      let (expression, rest) ← parts fuel (.arithmetic 0) [] rest
      return (some (.arithmetic expression isQuoted), rest)
    | '(' :: rest => do
      let (body, rest) ← list fuel rest
      match skipLines rest with
      | ')' :: rest => return (some (.output (body.getD .nothing) isQuoted), rest)
      | _ => none
    | '\x7b' :: rest => braced fuel isQuoted rest
    | cs =>
      match paramName? false cs with
      | some (name, rest) => some (some (.param name .value isQuoted), rest)
      | none => some (none, cs)

def braced (fuel : Nat) (isQuoted : Bool) (cs : Text) : Option (Option Part × Text) :=
  match fuel with
  | 0 => none
  | fuel + 1 =>
    let length? : Option (String × Text) :=
      match cs with
      | '#' :: rest =>
        match paramName? true rest with
        | some (name, '\x7d' :: rest) => some (name, rest)
        | _ => none
      | _ => none
    match length? with
    | some (name, rest) => some (some (.param name .length isQuoted), rest)
    | none => do
      let (name, rest) ← paramName? true cs
      match rest with
      | '\x7d' :: rest => return (some (.param name .value isQuoted), rest)
      | rest =>
        let (operator, rest) ← operator? rest
        let (word, rest) ← parts fuel (operator.place isQuoted) [] rest
        return (some (.param name (operator.form word) isQuoted), rest)

def whole (fuel : Nat) (cs : Text) : Option Node :=
  match fuel with
  | 0 => none
  | fuel + 1 => do
    let (body, rest) ← list fuel cs
    if (skipLines rest).isEmpty then return body.getD .nothing else none

def redirect (fuel : Nat) (fd : Option Nat) (cs : Text) : Option (Redirect × Text) :=
  match fuel with
  | 0 => none
  | fuel + 1 =>
    let target (cs : Text) : Option (Word × Text) := do
      let (word, rest) ← parts fuel .word [] (skipBlanks cs)
      if word.isEmpty then none else return (word, rest)
    let path (make : Word → Redirect) (cs : Text) : Option (Redirect × Text) := do
      let (word, rest) ← target cs
      return (make word, rest)
    let here (strip : Bool) (cs : Text) : Option (Redirect × Text) := do
      let (word, rest) ← target cs
      let (delimiter, isQuoted) := unquoted word
      let (line, below) := splitLine .none [] rest
      let isPlain := word.all fun
        | .text .. => true
        | _ => false
      let (body, below) := hereBody (if isPlain then some delimiter else none) strip [] [] below
      let rest := line ++ '\n' :: below
      if isQuoted then return (.here (fd.getD 0) [.text (String.ofList body) true], rest)
      else
        let (body, _) ← parts fuel .here [] body
        return (.here (fd.getD 0) body, rest)
    match cs with
    | '<' :: '<' :: '-' :: rest => here true rest
    | '<' :: '<' :: rest => here false rest
    | '<' :: '&' :: rest => path (.duplicate (fd.getD 0)) rest
    | '<' :: '>' :: rest => path (.both (fd.getD 0)) rest
    | '<' :: rest => path (.input (fd.getD 0)) rest
    | '>' :: '>' :: rest => path (.output (fd.getD 1) · .append) rest
    | '>' :: '&' :: rest => path (.duplicate (fd.getD 1)) rest
    | '>' :: '|' :: rest => path (.output (fd.getD 1) · .force) rest
    | '>' :: rest => path (.output (fd.getD 1) · .empty) rest
    | _ => none

def redirects (fuel : Nat) (done : List Redirect) (cs : Text) : Option (List Redirect × Text) :=
  match fuel with
  | 0 => none
  | fuel + 1 =>
    match redirectStart? (skipBlanks cs) with
    | some (fd, rest) => do
      let (r, rest) ← redirect fuel fd rest
      redirects fuel (r :: done) rest
    | none => some (done.reverse, cs)

def simple (fuel : Nat) (assigns : List (String × Word)) (words : List Word)
    (changes : List Redirect) (cs : Text) : Option (Node × Text) :=
  match fuel with
  | 0 => none
  | fuel + 1 =>
    let cs := skipBlanks cs
    match redirectStart? cs with
    | some (fd, rest) => do
      let (r, rest) ← redirect fuel fd rest
      simple fuel assigns words (r :: changes) rest
    | none =>
      let finish : Option (Node × Text) :=
        if assigns.isEmpty ∧ words.isEmpty ∧ changes.isEmpty then none
        else some (.simple assigns.reverse words.reverse changes.reverse, cs)
      match cs with
      | [] => finish
      | c :: _ =>
        if endsWord c then finish
        else
          match (if words.isEmpty then assignment? cs else none) with
          | some (name, rest) => do
            let (value, rest) ← parts fuel .word [] rest
            simple fuel ((name, value) :: assigns) words changes rest
          | none => do
            let (word, rest) ← parts fuel .word [] cs
            simple fuel assigns (word :: words) changes rest

def wordList (fuel : Nat) (done : List Word) (cs : Text) : Option (List Word × Text) :=
  match fuel with
  | 0 => none
  | fuel + 1 =>
    match skipBlanks cs with
    | [] => some (done.reverse, [])
    | c :: rest =>
      if endsWord c then some (done.reverse, c :: rest)
      else do
        let (word, rest) ← parts fuel .word [] (c :: rest)
        wordList fuel (word :: done) rest

def listThen (fuel : Nat) (word : String) (cs : Text) : Option (Node × Text) :=
  match fuel with
  | 0 => none
  | fuel + 1 => do
    let (body, rest) ← list fuel cs
    return (← body, ← keyword? word rest)

def branches (fuel : Nat) (cs : Text) : Option (Node × Text) :=
  match fuel with
  | 0 => none
  | fuel + 1 => do
    let (test, rest) ← listThen fuel "then" cs
    let (onTrue, rest) ← list fuel rest
    let onTrue ← onTrue
    match keyword? "elif" rest with
    | some rest =>
      let (onFalse, rest) ← branches fuel rest
      return (.branch test onTrue onFalse, rest)
    | none =>
      match keyword? "else" rest with
      | some rest =>
        let (onFalse, rest) ← listThen fuel "fi" rest
        return (.branch test onTrue onFalse, rest)
      | none => return (.branch test onTrue .nothing, ← keyword? "fi" rest)

def patterns (fuel : Nat) (done : List Word) (cs : Text) : Option (List Word × Text) :=
  match fuel with
  | 0 => none
  | fuel + 1 => do
    let (word, rest) ← parts fuel .word [] (skipBlanks cs)
    if word.isEmpty then none
    else
      match skipBlanks rest with
      | '|' :: rest => patterns fuel (word :: done) rest
      | ')' :: rest => return ((word :: done).reverse, rest)
      | _ => none

def clauses (fuel : Nat) (done : List (List Word × Node)) (cs : Text) :
    Option (List (List Word × Node) × Text) :=
  match fuel with
  | 0 => none
  | fuel + 1 =>
    match keyword? "esac" cs with
    | some rest => some (done.reverse, rest)
    | none => do
      let cs := skipLines cs
      let (ps, rest) ← patterns fuel [] (match cs with
        | '(' :: rest => rest
        | cs => cs)
      let (body, rest) ← list fuel rest
      let done := (ps, body.getD .nothing) :: done
      match skipLines rest with
      | ';' :: ';' :: rest => clauses fuel done rest
      | rest => return (done.reverse, ← keyword? "esac" rest)

/-- A command that begins with a reserved word, a parenthesis or a name to be defined, if one
begins here. -/
def compound? (fuel : Nat) (cs : Text) : Option (Option (Node × Text)) :=
  match fuel with
  | 0 => none
  | fuel + 1 =>
    match cs with
    | '(' :: rest => do
      let (body, rest) ← list fuel rest
      match skipLines rest with
      | ')' :: rest => return some (.subshell (← body), rest)
      | _ => none
    | cs =>
      match plainWord cs with
      | ("\x7b", rest) => do return some (← listThen fuel "\x7d" rest)
      | ("if", rest) => do return some (← branches fuel rest)
      | ("while", rest) => do
        let (test, rest) ← listThen fuel "do" rest
        let (body, rest) ← listThen fuel "done" rest
        return some (.loop false test body, rest)
      | ("until", rest) => do
        let (test, rest) ← listThen fuel "do" rest
        let (body, rest) ← listThen fuel "done" rest
        return some (.loop true test body, rest)
      | ("for", rest) => do
        let (name, rest) := plainWord (skipBlanks rest)
        let isName := match name.toList with
          | c :: more => isNameStart c && more.all isNameChar
          | [] => false
        if !isName then none
        else
          let (words, rest) ← (match keyword? "in" rest with
            | some rest => do
              let (words, rest) ← wordList fuel [] rest
              match rest with
              | ';' :: rest => return (some words, rest)
              | '\n' :: rest => return (some words, rest)
              | _ => none
            | none =>
              match skipBlanks rest with
              | ';' :: rest => some (none, rest)
              | rest => some (none, rest) : Option (Option (List Word) × Text))
          let rest ← keyword? "do" rest
          let (body, rest) ← listThen fuel "done" rest
          return some (.each name words body, rest)
      | ("case", rest) => do
        let (word, rest) ← parts fuel .word [] (skipBlanks rest)
        if word.isEmpty then none
        else
          let rest ← keyword? "in" rest
          let (cls, rest) ← clauses fuel [] rest
          return some (.select word cls, rest)
      | (name, rest) =>
        match skipBlanks rest with
        | '(' :: rest =>
          if name.isEmpty then some none
          else
            match skipBlanks rest with
            | ')' :: rest => do
              let (body, rest) ← command fuel (skipLines rest)
              return some (.define name body, rest)
            | _ => none
        | _ => some none

def command (fuel : Nat) (cs : Text) : Option (Node × Text) :=
  match fuel with
  | 0 => none
  | fuel + 1 =>
    if atEnd cs then none
    else do
      match ← compound? fuel cs with
      | some (node, rest) =>
        let (changes, rest) ← redirects fuel [] rest
        return (if changes.isEmpty then node else .redirected node changes, rest)
      | none => simple fuel [] [] [] cs

def stages (fuel : Nat) (done : List Node) (cs : Text) : Option (List Node × Text) :=
  match fuel with
  | 0 => none
  | fuel + 1 => do
    let (node, rest) ← command fuel cs
    match skipBlanks rest with
    | '|' :: '|' :: _ => return ((node :: done).reverse, rest)
    | '|' :: rest => stages fuel (node :: done) (skipLines rest)
    | _ => return ((node :: done).reverse, rest)

def pipeline (fuel : Nat) (cs : Text) : Option (Node × Text) :=
  match fuel with
  | 0 => none
  | fuel + 1 =>
    match plainWord cs with
    | ("!", rest) => do
      let (node, rest) ← pipeline fuel (skipBlanks rest)
      return (.not node, rest)
    | _ => do
      match ← stages fuel [] cs with
      | ([node], rest) => return (node, rest)
      | (nodes, rest) => return (.pipeline nodes, rest)

def andOr (fuel : Nat) (first : Node) (cs : Text) : Option (Node × Text) :=
  match fuel with
  | 0 => none
  | fuel + 1 =>
    match skipBlanks cs with
    | '&' :: '&' :: rest => do
      let (next, rest) ← pipeline fuel (skipLines rest)
      andOr fuel (.both first next) rest
    | '|' :: '|' :: rest => do
      let (next, rest) ← pipeline fuel (skipLines rest)
      andOr fuel (.either first next) rest
    | _ => some (first, cs)

/-- One item of a list, and whether another may follow on the same line. -/
def item (fuel : Nat) (cs : Text) : Option (Node × Bool × Text) :=
  match fuel with
  | 0 => none
  | fuel + 1 => do
    let (first, rest) ← pipeline fuel cs
    let (node, rest) ← andOr fuel first rest
    match skipBlanks rest with
    | ';' :: ';' :: rest => return (node, false, ';' :: ';' :: rest)
    | ';' :: rest => return (node, true, rest)
    | '&' :: rest => return (.background node, true, rest)
    | rest => return (node, false, rest)

def list (fuel : Nat) (cs : Text) : Option (Option Node × Text) :=
  match fuel with
  | 0 => none
  | fuel + 1 =>
    let cs := skipLines cs
    if atEnd cs then some (none, cs)
    else do
      let (node, goesOn, rest) ← item fuel cs
      match skipBlanks rest with
      | '\n' :: rest =>
        let (more, rest) ← list fuel rest
        return (some (more.elim node (.seq node)), rest)
      | rest =>
        if goesOn then
          let (more, rest) ← list fuel rest
          return (some (more.elim node (.seq node)), rest)
        else return (some node, rest)

end

def line (fuel : Nat) (cs : Text) : Option (Node × Text) :=
  match fuel with
  | 0 => none
  | fuel + 1 => do
    let (node, goesOn, rest) ← item fuel cs
    match skipBlanks rest with
    | [] => return (node, [])
    | '\n' :: rest => return (node, rest)
    | rest =>
      if goesOn then
        let (more, rest) ← line fuel rest
        return (.seq node more, rest)
      else none

end Parser

inductive Next where
  | finished
  | malformed
  | line (node : Node) (rest : List Char)

def readLine (text : List Char) : Next :=
  match Parser.skipLines text with
  | [] => .finished
  | cs =>
    match Parser.line (16 * cs.length + 64) cs with
    | some (node, rest) => .line node rest
    | none => .malformed

end Stepwise.Shell
