/-!
Text with variable tokens. At a dollar sign the token is a name in braces if one fits, and
otherwise the longest name that follows; a dollar sign with neither is plain. A template is scanned
once from the left, and what is put in place of a token is not scanned again.
-/

namespace Stepwise

namespace Template

def isNameStart (c : Char) : Bool := c.isAlpha || c == '_'

def isNameChar (c : Char) : Bool := c.isAlphanum || c == '_'

def IsName (cs : List Char) : Prop := ∃ c rest, cs = c :: rest ∧ isNameStart c ∧ rest.all isNameChar

/-- The longest name at the front of a text, and the text after it. -/
def name? : List Char → Option (List Char × List Char)
  | [] => none
  | c :: rest =>
    if isNameStart c then some (c :: rest.takeWhile isNameChar, rest.dropWhile isNameChar) else none

theorem name?_shorter {cs name rest : List Char} (h : name? cs = some (name, rest)) :
    rest.length < cs.length := by
  unfold name? at h
  split at h
  · simp at h
  · split at h
    · simp only [Option.some.injEq, Prod.mk.injEq] at h
      rw [← h.2]
      have := (List.dropWhile_sublist isNameChar (l := ‹List Char›)).length_le
      simp only [List.length_cons]
      omega
    · simp at h

def braced? : List Char → Option (List Char × List Char)
  | '\x7b' :: cs =>
    match name? cs with
    | some (name, '\x7d' :: rest) => some (name, rest)
    | _ => none
  | _ => none

theorem braced?_shorter {cs name rest : List Char} (h : braced? cs = some (name, rest)) :
    rest.length < cs.length := by
  unfold braced? at h
  split at h
  · split at h
    · next found =>
      have := name?_shorter found
      simp only [Option.some.injEq, Prod.mk.injEq] at h
      rw [← h.2]
      simp only [List.length_cons] at this ⊢
      omega
    · simp at h
  · simp at h

inductive Piece where
  | plain (c : Char)
  | token (name : List Char) (isBraced : Bool)
  deriving DecidableEq, Repr

def Piece.source : Piece → List Char
  | .plain c => [c]
  | .token name true => '$' :: '\x7b' :: name ++ ['\x7d']
  | .token name false => '$' :: name

def Piece.name? : Piece → Option String
  | .plain _ => none
  | .token name _ => some (String.ofList name)

def scan (cs : List Char) : List Piece :=
  match cs with
  | [] => []
  | c :: rest =>
    if c = '$' then
      match h : braced? rest with
      | some (name, after) =>
        have := braced?_shorter h
        .token name true :: scan after
      | none =>
        match h : Template.name? rest with
        | some (name, after) =>
          have := name?_shorter h
          .token name false :: scan after
        | none => .plain c :: scan rest
    else .plain c :: scan rest
termination_by cs.length
decreasing_by all_goals (simp_wf <;> omega)

/-- What a piece becomes under a look-up of names: an unbound token stays as it was written. -/
def Piece.fill (lookup : String → Option String) : Piece → List Char
  | .plain c => [c]
  | .token name isBraced =>
    match lookup (String.ofList name) with
    | some value => value.toList
    | none => (Piece.token name isBraced).source

end Template

def fillChars (lookup : String → Option String) (cs : List Char) : List Char :=
  (Template.scan cs).flatMap (·.fill lookup)

def fillTemplate (lookup : String → Option String) (text : String) : String :=
  String.ofList (fillChars lookup text.toList)

/-- The names of a template's tokens, in order and as often as they stand. -/
def tokenNames (text : String) : List String := (Template.scan text.toList).filterMap (·.name?)

end Stepwise
