import Mathlib.Data.List.TakeWhile
import Stepwise.Template
/-!
The grammar of a template, and that scanning reads it. At a dollar sign stands a name in braces, or
else the longest name that follows, or the sign is plain; every text is read in just one way. A
character that can stand in no token divides what is before it from what is behind.
-/

namespace Stepwise

namespace Template

theorem isNameChar_of_start {c : Char} (start : isNameStart c = true) : isNameChar c = true := by
  simp only [isNameStart, isNameChar, Char.isAlphanum, Bool.or_eq_true] at start ⊢
  rcases start with alpha | score
  · exact .inl (.inl alpha)
  · exact .inr score

theorem toNat_of_isNameChar {c : Char} (inName : isNameChar c = true) :
    48 ≤ c.toNat ∧ c.toNat ≤ 122 := by
  have ranges : (decide ('A'.val ≤ c.val ∧ c.val ≤ 'Z'.val) ||
      ('a'.val ≤ c.val && c.val ≤ 'z'.val) || ('0'.val ≤ c.val && c.val ≤ '9'.val) ||
      c == '_') = true := inName
  simp only [Bool.or_eq_true, Bool.and_eq_true, decide_eq_true_eq, beq_iff_eq,
    UInt32.le_iff_toNat_le] at ranges
  rcases ranges with ranges | rfl
  · change ((65 ≤ c.toNat ∧ c.toNat ≤ 90) ∨ (97 ≤ c.toNat ∧ c.toNat ≤ 122)) ∨
      (48 ≤ c.toNat ∧ c.toNat ≤ 57) at ranges
    omega
  · decide

theorem IsName.all {name : List Char} (isName : IsName name) : ∀ c ∈ name, isNameChar c = true := by
  obtain ⟨c, rest, rfl, start, more⟩ := isName
  intro d member
  rcases List.mem_cons.1 member with rfl | later
  · exact isNameChar_of_start start
  · exact List.all_eq_true.1 more d later

/-- A name ends where the text behind it does not go on with a character of names. -/
def Ends (rest : List Char) : Prop := ∀ c ∈ rest.head?, isNameChar c = false

theorem ends_dropWhile (cs : List Char) : Ends (cs.dropWhile isNameChar) := by
  intro c front
  induction cs with
  | nil => simp at front
  | cons d rest ih =>
    rw [List.dropWhile_cons] at front
    split at front
    · exact ih front
    · next other =>
      obtain rfl : d = c := by simpa using front
      simpa using other

theorem Ends.takeWhile {rest : List Char} (ends : Ends rest) : rest.takeWhile isNameChar = [] := by
  cases rest with
  | nil => rfl
  | cons c rest => rw [List.takeWhile_cons, ends c rfl]; rfl

theorem Ends.dropWhile {rest : List Char} (ends : Ends rest) :
    rest.dropWhile isNameChar = rest := by
  cases rest with
  | nil => rfl
  | cons c rest => rw [List.dropWhile_cons, ends c rfl]; rfl

theorem name?_eq_some {cs name rest : List Char} :
    name? cs = some (name, rest) ↔ IsName name ∧ cs = name ++ rest ∧ Ends rest := by
  constructor
  · intro found
    unfold name? at found
    split at found
    · simp at found
    · next c tail =>
      split at found
      · next start =>
        obtain ⟨rfl, rfl⟩ := Prod.mk.inj (Option.some.inj found)
        have all : (tail.takeWhile isNameChar).all isNameChar = true :=
          List.all_eq_true.2 fun d member => List.mem_takeWhile_imp member
        refine ⟨⟨c, _, rfl, start, all⟩, ?_, ends_dropWhile tail⟩
        rw [List.cons_append, List.takeWhile_append_dropWhile]
      · simp at found
  · rintro ⟨⟨c, more, rfl, start, all⟩, rfl, ends⟩
    have each := List.all_eq_true.1 all
    rw [List.cons_append, name?, if_pos start, List.takeWhile_append_of_pos each, ends.takeWhile,
      List.dropWhile_append_of_pos each, ends.dropWhile, List.append_nil]

theorem name?_eq_none {cs : List Char} :
    name? cs = none ↔ ∀ name rest, IsName name → cs ≠ name ++ rest := by
  constructor
  · rintro nothing name rest ⟨c, more, rfl, start, -⟩ rfl
    simp [name?, start] at nothing
  · intro none
    cases found : name? cs with
    | none => rfl
    | some e =>
      obtain ⟨isName, text, -⟩ := name?_eq_some.1 found
      exact absurd text (none _ _ isName)

theorem braced?_eq_some {cs name rest : List Char} : braced? cs = some (name, rest) ↔
    IsName name ∧ cs = '\x7b' :: (name ++ '\x7d' :: rest) := by
  constructor
  · intro found
    unfold braced? at found
    split at found
    · split at found
      · next named =>
        obtain ⟨rfl, rfl⟩ := Prod.mk.inj (Option.some.inj found)
        obtain ⟨isName, text, -⟩ := name?_eq_some.1 named
        exact ⟨isName, by rw [text]⟩
      · simp at found
    · simp at found
  · rintro ⟨isName, rfl⟩
    have named : name? (name ++ '\x7d' :: rest) = some (name, '\x7d' :: rest) :=
      name?_eq_some.2 ⟨isName, rfl, fun c front => by
        obtain rfl : '\x7d' = c := by simpa using front
        decide⟩
    simp only [braced?, named]

theorem braced?_eq_none {cs : List Char} : braced? cs = none ↔
    ∀ name rest, IsName name → cs ≠ '\x7b' :: (name ++ '\x7d' :: rest) := by
  constructor
  · intro nothing name rest isName text
    rw [braced?_eq_some.2 ⟨isName, text⟩] at nothing
    simp at nothing
  · intro none
    cases found : braced? cs with
    | none => rfl
    | some e =>
      obtain ⟨isName, text⟩ := braced?_eq_some.1 found
      exact absurd text (none _ _ isName)

/-- That a name ends where it does makes it the longest at the front of the text. -/
theorem longest_iff {name rest : List Char} (isName : IsName name) :
    (∀ other, IsName other → other <+: name ++ rest → other.length ≤ name.length) ↔ Ends rest := by
  constructor
  · intro longest c front
    refine Bool.eq_false_iff.2 fun more => ?_
    obtain ⟨after, rfl⟩ : ∃ after, rest = c :: after := by
      cases rest with
      | nil => simp at front
      | cons d after => exact ⟨after, by rw [show d = c by simpa using front]⟩
    obtain ⟨d, tail, rfl, start, all⟩ := isName
    have longer : IsName (d :: tail ++ [c]) :=
      ⟨d, tail ++ [c], rfl, start, by simpa [List.all_append, all] using more⟩
    have bound := longest _ longer ⟨after, by simp⟩
    simp only [List.length_append, List.length_cons, List.length_nil] at bound
    omega
  · rintro ends other isOther ⟨after, text⟩
    refine Nat.le_of_not_lt fun longer => ?_
    have front : (name ++ rest).take other.length = other := by rw [← text, List.take_left]
    rw [List.take_append, List.take_of_length_le (by omega)] at front
    -- a longer name has the character in it that this one ends before
    cases rest with
    | nil =>
      have same := congrArg List.length front
      simp at same
      omega
    | cons c tail =>
      have inside : c ∈ other := by
        obtain ⟨n, more⟩ : ∃ n, other.length - name.length = n + 1 :=
          ⟨other.length - name.length - 1, by omega⟩
        rw [← front, more]
        simp
      exact absurd (isOther.all c inside) (by simp [ends c rfl])

inductive Reads : List Char → List Piece → Prop
  | done : Reads [] []
  | braced {name rest : List Char} {pieces : List Piece} (isName : IsName name)
      (more : Reads rest pieces) :
      Reads ('$' :: '\x7b' :: (name ++ '\x7d' :: rest)) (.token name true :: pieces)
  | bare {name rest : List Char} {pieces : List Piece} (isName : IsName name)
      (longest : ∀ other, IsName other → other <+: name ++ rest → other.length ≤ name.length)
      (more : Reads rest pieces) : Reads ('$' :: (name ++ rest)) (.token name false :: pieces)
  | dollar {rest : List Char} {pieces : List Piece}
      (unbraced : ∀ name after, IsName name → rest ≠ '\x7b' :: (name ++ '\x7d' :: after))
      (unnamed : ∀ name after, IsName name → rest ≠ name ++ after)
      (more : Reads rest pieces) : Reads ('$' :: rest) (.plain '$' :: pieces)
  | plain {c : Char} {rest : List Char} {pieces : List Piece} (other : c ≠ '$')
      (more : Reads rest pieces) : Reads (c :: rest) (.plain c :: pieces)

theorem scan_nil : scan [] = [] := by rw [scan]

theorem scan_plain {c : Char} (other : c ≠ '$') (rest : List Char) :
    scan (c :: rest) = .plain c :: scan rest := by
  rw [scan, if_neg other]

theorem scan_braced {rest name after : List Char} (found : braced? rest = some (name, after)) :
    scan ('$' :: rest) = .token name true :: scan after := by
  rw [scan, if_pos rfl]
  split
  · next same =>
    obtain ⟨rfl, rfl⟩ := Prod.mk.inj (Option.some.inj (found.symm.trans same))
    rfl
  · next none => simp [found] at none

theorem scan_bare {rest name after : List Char} (unbraced : braced? rest = none)
    (found : name? rest = some (name, after)) :
    scan ('$' :: rest) = .token name false :: scan after := by
  rw [scan, if_pos rfl]
  split
  · next same => simp [unbraced] at same
  · split
    · next same =>
      obtain ⟨rfl, rfl⟩ := Prod.mk.inj (Option.some.inj (found.symm.trans same))
      rfl
    · next none => simp [found] at none

theorem scan_dollar {rest : List Char} (unbraced : braced? rest = none)
    (unnamed : name? rest = none) : scan ('$' :: rest) = .plain '$' :: scan rest := by
  rw [scan, if_pos rfl]
  split
  · next same => simp [unbraced] at same
  · split
    · next same => simp [unnamed] at same
    · rfl

theorem braced?_name {name : List Char} (isName : IsName name) (rest : List Char) :
    braced? (name ++ rest) = none := by
  obtain ⟨c, more, rfl, start, -⟩ := isName
  refine braced?_eq_none.2 fun other after _ text => ?_
  have same : c = '\x7b' := (List.cons.inj text).1
  rw [same] at start
  exact absurd start (by decide)

theorem reads_scan (cs : List Char) : Reads cs (scan cs) := by
  fun_induction scan cs with
  | case1 => exact .done
  | case2 rest name after found shorter ih =>
    obtain ⟨isName, rfl⟩ := braced?_eq_some.1 found
    exact .braced isName ih
  | case3 rest unbraced name after found shorter ih =>
    obtain ⟨isName, rfl, ends⟩ := name?_eq_some.1 found
    exact .bare isName ((longest_iff isName).2 ends) ih
  | case4 rest unbraced unnamed ih =>
    exact .dollar (braced?_eq_none.1 unbraced) (name?_eq_none.1 unnamed) ih
  | case5 c rest other ih => exact .plain other ih

theorem Reads.eq_scan {cs : List Char} {pieces : List Piece} (reads : Reads cs pieces) :
    pieces = scan cs := by
  induction reads with
  | done => exact scan_nil.symm
  | braced isName more ih => rw [scan_braced (braced?_eq_some.2 ⟨isName, rfl⟩), ih]
  | bare isName longest more ih =>
    have ends := (longest_iff isName).1 longest
    rw [scan_bare (braced?_name isName _) (name?_eq_some.2 ⟨isName, rfl, ends⟩), ih]
  | dollar unbraced unnamed more ih =>
    rw [scan_dollar (braced?_eq_none.2 unbraced) (name?_eq_none.2 unnamed), ih]
  | plain other more ih => rw [scan_plain other, ih]

theorem Reads.flatMap_source {cs : List Char} {pieces : List Piece} (reads : Reads cs pieces) :
    pieces.flatMap Piece.source = cs := by
  induction reads with
  | done => rfl
  | _ => simp_all [Piece.source]

def Apart (c : Char) : Prop := c ∉ ['$', '\x7b', '\x7d'] ∧ isNameChar c = false

theorem Apart.not_mem_name {c : Char} (apart : Apart c) {name : List Char} (isName : IsName name) :
    c ∉ name := by
  intro member
  have inName := isName.all c member
  rw [apart.2] at inName
  contradiction

theorem Apart.not_mem_braced {c : Char} (apart : Apart c) {name : List Char}
    (isName : IsName name) : c ∉ '\x7b' :: (name ++ ['\x7d']) := by
  have outside := apart.1
  simp only [List.mem_cons, List.not_mem_nil, or_false, not_or] at outside
  simp [outside, apart.not_mem_name isName]

theorem prefix_of_apart {c : Char} {read cs after : List Char} (apart : c ∉ read)
    (front : read <+: cs ++ c :: after) : read <+: cs := by
  rcases List.prefix_or_prefix_of_prefix front (List.prefix_append cs (c :: after)) with
    inside | ⟨beyond, rfl⟩
  · exact inside
  · -- what is read beyond the first text begins with the character itself
    cases beyond with
    | nil => simp
    | cons d more =>
      obtain ⟨rfl, -⟩ := List.cons_prefix_cons.1 ((List.prefix_append_right_inj cs).1 front)
      simp at apart

theorem Ends.append {rest after : List Char} {c : Char} (ends : Ends rest) (apart : Apart c) :
    Ends (rest ++ c :: after) := by
  cases rest with
  | nil =>
    rintro d front
    obtain rfl : c = d := by simpa using front
    exact apart.2
  | cons d tail => exact ends

/-- A character that stands in no token parts a text: each side of it is read by itself. -/
theorem Reads.append {c : Char} {cs after : List Char} {pieces more : List Piece} (apart : Apart c)
    (left : Reads cs pieces) (right : Reads after more) :
    Reads (cs ++ c :: after) (pieces ++ .plain c :: more) := by
  induction left with
  | done =>
    refine .plain ?_ right
    rintro rfl
    exact apart.1 List.mem_cons_self
  | braced isName _ ih =>
    simp only [List.cons_append, List.append_assoc]
    exact .braced isName ih
  | bare isName longest _ ih =>
    simp only [List.cons_append, List.append_assoc]
    have ends := (longest_iff isName).1 longest
    exact .bare isName ((longest_iff isName).2 (ends.append apart)) ih
  | @dollar rest _ unbraced unnamed _ ih =>
    -- a token that fits the longer text ends before the character, so it fitted before
    refine .dollar (fun name behind isName text => ?_) (fun name behind isName text => ?_) ih
    · have front : '\x7b' :: (name ++ ['\x7d']) <+: rest ++ c :: after :=
        ⟨behind, by rw [List.cons_append, List.append_assoc]; exact text.symm⟩
      obtain ⟨nearer, same⟩ := prefix_of_apart (apart.not_mem_braced isName) front
      exact unbraced name nearer isName (by simp [← same])
    · obtain ⟨nearer, same⟩ := prefix_of_apart (apart.not_mem_name isName) ⟨behind, text.symm⟩
      exact unnamed name nearer isName same.symm
  | plain other _ ih => exact .plain other ih

theorem scan_append {c : Char} (apart : Apart c) (cs after : List Char) :
    scan (cs ++ c :: after) = scan cs ++ .plain c :: scan after :=
  ((reads_scan cs).append apart (reads_scan after)).eq_scan.symm

end Template

end Stepwise
