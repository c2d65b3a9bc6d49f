/-!
Shell commands as trees. A word is a list of parts; a part remembers whether it is quoted, because
only unquoted expansions are split into fields and only unquoted characters stand for patterns.
-/

namespace Stepwise.Shell

inductive OutputMode where
  /-- It is emptied, unless the shell keeps files from that. -/
  | empty
  | append
  | force
  deriving DecidableEq

mutual

inductive Part where
  | text (chars : String) (isQuoted : Bool)
  | param (name : String) (form : Form) (isQuoted : Bool)
  | output (body : Node) (isQuoted : Bool)
  | arithmetic (expression : List Part) (isQuoted : Bool)

inductive Form where
  | value
  | length
  /-- The word in place of a value that is missing or, if `orEmpty`, empty. -/
  | default (orEmpty : Bool) (word : List Part)
  | assign (orEmpty : Bool) (word : List Part)
  | require (orEmpty : Bool) (word : List Part)
  | alternative (orEmpty : Bool) (word : List Part)
  | strip (fromEnd longest : Bool) (pattern : List Part)

inductive Redirect where
  | input (fd : Nat) (path : List Part)
  | output (fd : Nat) (path : List Part) (mode : OutputMode)
  | both (fd : Nat) (path : List Part)
  | duplicate (fd : Nat) (target : List Part)
  | here (fd : Nat) (body : List Part)

inductive Node where
  | nothing
  | simple (assigns : List (String × List Part)) (words : List (List Part))
      (redirects : List Redirect)
  | seq (first second : Node)
  | both (first second : Node)
  | either (first second : Node)
  | not (body : Node)
  | pipeline (stages : List Node)
  | background (body : Node)
  | subshell (body : Node)
  | redirected (body : Node) (redirects : List Redirect)
  | branch (test onTrue onFalse : Node)
  | loop (isUntil : Bool) (test body : Node)
  | each (name : String) (words : Option (List (List Part))) (body : Node)
  | select (word : List Part) (clauses : List (List (List Part) × Node))
  | define (name : String) (body : Node)

end

abbrev Word := List Part

instance : Inhabited Node := ⟨.nothing⟩

instance : Inhabited Part := ⟨.text "" false⟩

end Stepwise.Shell
