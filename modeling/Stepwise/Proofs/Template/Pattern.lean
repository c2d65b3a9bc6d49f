import Stepwise.Proofs.Template.Tokens
/-!
The tokens of a template as a pattern over characters. A pattern is tried in a fixed order: of two
alternatives the first goes first, and a repetition takes all it can before it gives some back. To
take the first match at the leftmost place that has one, and to go on behind it, splits a text just
as scanning does: no shorter name and no other alternative ever gets its turn.
-/

namespace Stepwise

namespace Template

inductive Pattern where
  | char (allowed : Char → Bool)
  | many (allowed : Char → Bool)
  | follow (first second : Pattern)
  | either (preferred other : Pattern)
  | group (inner : Pattern)

/-- A match at the front of a text, with what the last group in it read. -/
structure Hit where
  group : Option (List Char)
  read : List Char
  rest : List Char

def Hit.follow (first second : Hit) : Hit :=
  ⟨second.group.or first.group, first.read ++ second.read, second.rest⟩

/-- The stretches of admitted characters at the front of a text, the longest first, each with the
text after it. -/
def stretches (allowed : Char → Bool) : List Char → List (List Char × List Char)
  | [] => [([], [])]
  | c :: rest =>
    if allowed c then (stretches allowed rest).map (fun e => (c :: e.1, e.2)) ++ [([], c :: rest)]
    else [([], c :: rest)]

namespace Pattern

/-- The matches of a pattern at the front of a text, in the order in which they are tried. -/
@[simp]
def hits : Pattern → List Char → List Hit
  | char _, [] => []
  | char allowed, c :: rest => if allowed c then [⟨none, [c], rest⟩] else []
  | many allowed, cs => (stretches allowed cs).map fun e => ⟨none, e.1, e.2⟩
  | follow first second, cs => (first.hits cs).flatMap fun h => (second.hits h.rest).map h.follow
  | either preferred other, cs => preferred.hits cs ++ other.hits cs
  | group inner, cs => (inner.hits cs).map fun h => { h with group := some h.read }

/-- A text split from the left at the first match of a pattern, wherever there is one; the group of
the match is the name of the token. -/
inductive Splits (p : Pattern) : List Char → List Piece → Prop
  | done : Splits p [] []
  | hit {cs name rest : List Char} {isBraced : Bool} {pieces : List Piece}
      (first : (p.hits cs).head? = some ⟨some name, (Piece.token name isBraced).source, rest⟩)
      (more : Splits p rest pieces) : Splits p cs (.token name isBraced :: pieces)
  | passed {c : Char} {rest : List Char} {pieces : List Piece} (nowhere : p.hits (c :: rest) = [])
      (more : Splits p rest pieces) : Splits p (c :: rest) (.plain c :: pieces)

def only (c : Char) : Pattern := char (· == c)

def name : Pattern := group (follow (char isNameStart) (many isNameChar))

def inBraces : Pattern := follow (only '\x7b') (follow name (only '\x7d'))

def token : Pattern := either (follow (only '$') inBraces) (follow (only '$') name)

end Pattern

theorem stretches_eq (allowed : Char → Bool) (cs : List Char) :
    ∃ shorter, stretches allowed cs = (cs.takeWhile allowed, cs.dropWhile allowed) :: shorter ∧
      ∀ e ∈ shorter, ∃ c rest, e.2 = c :: rest ∧ allowed c = true := by
  induction cs with
  | nil => exact ⟨[], rfl, by simp⟩
  | cons c rest ih =>
    cases admitted : allowed c with
    | false => exact ⟨[], by simp [stretches, admitted], by simp⟩
    | true =>
      obtain ⟨shorter, all, behind⟩ := ih
      refine ⟨shorter.map (fun e => (c :: e.1, e.2)) ++ [([], c :: rest)],
        by simp [stretches, admitted, all], fun e member => ?_⟩
      rcases List.mem_append.1 member with longer | last
      · obtain ⟨e', inner, rfl⟩ := List.mem_map.1 longer
        exact behind e' inner
      · obtain rfl := List.mem_singleton.1 last
        exact ⟨c, rest, rfl, admitted⟩

namespace Pattern

def groups (p : Pattern) (cs : List Char) : List (Option (List Char)) := (p.hits cs).map Hit.group

theorem groups_eq_nil {p : Pattern} {cs : List Char} : p.groups cs = [] ↔ p.hits cs = [] :=
  List.map_eq_nil_iff

theorem groups_either (preferred other : Pattern) (cs : List Char) :
    (either preferred other).groups cs = preferred.groups cs ++ other.groups cs := by
  rw [groups, hits, List.map_append, groups, groups]

/-- Where nothing can follow any but the first match of a pattern, the others do not count. -/
theorem groups_follow {first second : Pattern} {cs : List Char} {best : Hit} {others : List Hit}
    (all : first.hits cs = best :: others) (stuck : ∀ h ∈ others, second.hits h.rest = []) :
    (follow first second).groups cs = (second.groups best.rest).map fun g => g.or best.group := by
  have none : others.flatMap (fun h => (second.hits h.rest).map h.follow) = [] :=
    List.flatMap_eq_nil_iff.2 fun h member => by rw [stuck h member, List.map_nil]
  rw [groups, hits, all, List.flatMap_cons, none, List.append_nil, groups, List.map_map,
    List.map_map]
  rfl

theorem groups_follow_char (allowed : Char → Bool) (p : Pattern) (c : Char) (rest : List Char) :
    (follow (char allowed) p).groups (c :: rest) = if allowed c then p.groups rest else [] := by
  cases admitted : allowed c with
  | false => simp [groups, admitted]
  | true =>
    have matched : (char allowed).hits (c :: rest) = [⟨none, [c], rest⟩] := by simp [admitted]
    rw [groups_follow matched (by simp)]
    simp

section Longest

variable {allowed : Char → Bool} {p : Pattern}
  (stops : ∀ c rest, allowed c = true → p.hits (c :: rest) = []) (cs : List Char)

include stops

theorem stuck_behind_shorter : ∃ shorter,
    stretches allowed cs = (cs.takeWhile allowed, cs.dropWhile allowed) :: shorter ∧
      ∀ e ∈ shorter, p.hits e.2 = [] := by
  obtain ⟨shorter, all, behind⟩ := stretches_eq allowed cs
  refine ⟨shorter, all, fun e member => ?_⟩
  obtain ⟨c, rest, text, admitted⟩ := behind e member
  rw [text]
  exact stops c rest admitted

theorem groups_follow_many :
    (follow (many allowed) p).groups cs = p.groups (cs.dropWhile allowed) := by
  obtain ⟨shorter, all, stuck⟩ := stuck_behind_shorter stops cs
  have matched : (many allowed).hits cs = ⟨none, cs.takeWhile allowed, cs.dropWhile allowed⟩ ::
      shorter.map fun e => ⟨none, e.1, e.2⟩ := by
    rw [hits, all, List.map_cons]
  rw [groups_follow matched (List.forall_mem_map.2 stuck)]
  simp

theorem groups_follow_group : (follow (group (many allowed)) p).groups cs =
    (p.groups (cs.dropWhile allowed)).map fun g => g.or (some (cs.takeWhile allowed)) := by
  obtain ⟨shorter, all, stuck⟩ := stuck_behind_shorter stops cs
  have matched : (group (many allowed)).hits cs =
      ⟨some (cs.takeWhile allowed), cs.takeWhile allowed, cs.dropWhile allowed⟩ ::
        shorter.map fun e => ⟨some e.1, e.1, e.2⟩ := by
    rw [hits, hits, all, List.map_cons, List.map_cons, List.map_map]
    rfl
  exact groups_follow matched (List.forall_mem_map.2 stuck)

end Longest

@[simp]
theorem hits_only_nil (c : Char) : (only c).hits [] = [] := rfl

@[simp]
theorem hits_only_self (c : Char) (rest : List Char) :
    (only c).hits (c :: rest) = [⟨none, [c], rest⟩] := by
  simp [only]

theorem hits_only_other {c d : Char} (other : d ≠ c) (rest : List Char) :
    (only c).hits (d :: rest) = [] := by
  simp [only, other]

theorem hits_follow_only (c : Char) (p : Pattern) (rest : List Char) :
    (follow (only c) p).hits (c :: rest) =
      (p.hits rest).map fun h => ⟨h.group, c :: h.read, h.rest⟩ := by
  simp [Hit.follow]

theorem hits_follow_only_other {c d : Char} (other : d ≠ c) (p : Pattern) (rest : List Char) :
    (follow (only c) p).hits (d :: rest) = [] := by
  simp [hits_only_other other]

theorem hits_name {cs first rest : List Char} (found : name? cs = some (first, rest)) :
    ∃ shorter, name.hits cs = ⟨some first, first, rest⟩ :: shorter ∧
      ∀ h ∈ shorter, ∃ c after, h.rest = c :: after ∧ isNameChar c = true := by
  unfold name? at found
  split at found
  · simp at found
  · next c tail =>
    split at found
    · next start =>
      obtain ⟨rfl, rfl⟩ := Prod.mk.inj (Option.some.inj found)
      obtain ⟨shorter, all, behind⟩ := stretches_eq isNameChar tail
      refine ⟨shorter.map fun e => ⟨some (c :: e.1), c :: e.1, e.2⟩, ?_, fun h member => ?_⟩
      · simp [name, start, all, Hit.follow]
      · obtain ⟨e, inner, rfl⟩ := List.mem_map.1 member
        exact behind e inner
    · simp at found

theorem hits_name_none {cs : List Char} (nothing : name? cs = none) : name.hits cs = [] := by
  cases cs with
  | nil => simp [name]
  | cons c rest =>
    have other : isNameStart c = false := by simpa [name?] using nothing
    simp [name, other]

/-- Only the longest name can stand before a closing brace: a shorter one leaves a character of
names there. -/
theorem hits_inBraces (cs : List Char) : inBraces.hits cs =
    (braced? cs).toList.map fun e => ⟨some e.1, '\x7b' :: (e.1 ++ ['\x7d']), e.2⟩ := by
  unfold braced?
  split
  · next rest =>
    rw [inBraces, hits_follow_only]
    cases found : name? rest with
    | none => simp [hits_name_none found]
    | some e =>
      obtain ⟨shorter, all, behind⟩ := hits_name found
      have none : shorter.flatMap (fun h => ((only '\x7d').hits h.rest).map h.follow) = [] := by
        refine List.flatMap_eq_nil_iff.2 fun h member => ?_
        obtain ⟨c, after, rest, inName⟩ := behind h member
        have other : c ≠ '\x7d' := by
          rintro rfl
          exact absurd inName (by decide)
        rw [rest, hits_only_other other, List.map_nil]
      rw [hits, all, List.flatMap_cons, none, List.append_nil]
      split
      · next same =>
        obtain rfl := Option.some.inj same
        simp [Hit.follow]
      · next other =>
        obtain ⟨first, behindFirst⟩ := e
        cases behindFirst with
        | nil => simp
        | cons c after =>
          have closed : c ≠ '\x7d' := fun same => other first after (by rw [same])
          simp [hits_only_other closed]
  · next other =>
    cases cs with
    | nil => simp [inBraces]
    | cons c rest =>
      have opened : c ≠ '\x7b' := fun same => other rest (by rw [same])
      simp [inBraces, hits_follow_only_other opened]

theorem hits_token_nil : token.hits [] = [] := by simp [token]

theorem hits_token_other {c : Char} (other : c ≠ '$') (rest : List Char) :
    token.hits (c :: rest) = [] := by
  rw [token, hits, hits_follow_only_other other, hits_follow_only_other other, List.append_nil]

theorem hits_token_dollar (rest : List Char) : token.hits ('$' :: rest) =
    ((braced? rest).toList.map fun e => ⟨some e.1, '$' :: '\x7b' :: (e.1 ++ ['\x7d']), e.2⟩) ++
      (name.hits rest).map fun h => ⟨h.group, '$' :: h.read, h.rest⟩ := by
  rw [token, hits, hits_follow_only, hits_follow_only, hits_inBraces, List.map_map]
  rfl

theorem token_braced {rest first after : List Char} (found : braced? rest = some (first, after)) :
    (token.hits ('$' :: rest)).head? =
      some ⟨some first, (Piece.token first true).source, after⟩ := by
  rw [hits_token_dollar, found]
  rfl

theorem token_bare {rest first after : List Char} (unbraced : braced? rest = none)
    (found : name? rest = some (first, after)) :
    (token.hits ('$' :: rest)).head? =
      some ⟨some first, (Piece.token first false).source, after⟩ := by
  obtain ⟨shorter, all, -⟩ := hits_name found
  rw [hits_token_dollar, unbraced, all]
  rfl

theorem token_dollar {rest : List Char} (unbraced : braced? rest = none)
    (unnamed : name? rest = none) : token.hits ('$' :: rest) = [] := by
  rw [hits_token_dollar, unbraced, hits_name_none unnamed]
  rfl

theorem splits_scan (cs : List Char) : token.Splits cs (scan cs) := by
  fun_induction scan cs with
  | case1 => exact .done
  | case2 rest first after found shorter ih => exact .hit (token_braced found) ih
  | case3 rest unbraced first after found shorter ih => exact .hit (token_bare unbraced found) ih
  | case4 rest unbraced unnamed ih => exact .passed (token_dollar unbraced unnamed) ih
  | case5 c rest other ih => exact .passed (hits_token_other other rest) ih

theorem source_inj {first : List Char} {isBraced isBraced' : Bool}
    (same : (Piece.token first isBraced).source = (Piece.token first isBraced').source) :
    isBraced = isBraced' := by
  have lengths := congrArg List.length same
  cases isBraced <;> cases isBraced' <;> simp [Piece.source] at lengths ⊢
  omega

theorem scan_hit {cs first rest : List Char} {isBraced : Bool}
    (found : (token.hits cs).head? = some ⟨some first, (Piece.token first isBraced).source, rest⟩) :
    scan cs = .token first isBraced :: scan rest := by
  cases cs with
  | nil => simp [hits_token_nil] at found
  | cons c tail =>
    by_cases dollar : c = '$'
    · subst dollar
      cases braces : braced? tail with
      | some e =>
        rw [token_braced braces, Option.some.injEq, Hit.mk.injEq, Option.some.injEq] at found
        obtain ⟨rfl, source, rfl⟩ := found
        rw [scan_braced braces, source_inj source]
      | none =>
        cases named : name? tail with
        | some e =>
          rw [token_bare braces named, Option.some.injEq, Hit.mk.injEq, Option.some.injEq] at found
          obtain ⟨rfl, source, rfl⟩ := found
          rw [scan_bare braces named, source_inj source]
        | none => simp [token_dollar braces named] at found
    · simp [hits_token_other dollar] at found

theorem scan_passed {c : Char} {rest : List Char} (nowhere : token.hits (c :: rest) = []) :
    scan (c :: rest) = .plain c :: scan rest := by
  by_cases dollar : c = '$'
  · subst dollar
    cases braces : braced? rest with
    | some e =>
      have first := token_braced braces
      simp [nowhere] at first
    | none =>
      cases named : name? rest with
      | some e =>
        have first := token_bare braces named
        simp [nowhere] at first
      | none => exact scan_dollar braces named
  · exact scan_plain dollar rest

theorem splits_iff {cs : List Char} {pieces : List Piece} :
    token.Splits cs pieces ↔ pieces = scan cs := by
  refine ⟨fun splits => ?_, fun same => same ▸ splits_scan cs⟩
  induction splits with
  | done => exact scan_nil.symm
  | hit first _ ih => rw [scan_hit first, ih]
  | passed nowhere _ ih => rw [scan_passed nowhere, ih]

end Pattern

end Template

end Stepwise
