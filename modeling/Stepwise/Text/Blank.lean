/-!
Blank characters: the white space of running text, line and paragraph separators and the control
characters that move the print position among them. `trim` takes the blanks off both ends and
changes nothing between.
-/

namespace Stepwise.Text

def blankRanges : List (Nat × Nat) := [
  (9, 0xD), (0x20, 0x20), (0x85, 0x85), (0xA0, 0xA0), (0x1680, 0x1680), (0x2000, 0x200A),
  (0x2028, 0x2029), (0x202F, 0x202F), (0x205F, 0x205F), (0x3000, 0x3000)]

def isBlank (c : Char) : Bool :=
  blankRanges.any fun r => r.1 ≤ c.toNat && c.toNat ≤ r.2

def trimStart (cs : List Char) : List Char := cs.dropWhile isBlank

def trimEnd (cs : List Char) : List Char := (cs.reverse.dropWhile isBlank).reverse

def trimChars (cs : List Char) : List Char := trimEnd (trimStart cs)

def trim (s : String) : String := String.ofList (trimChars s.toList)

def isBlankText (s : String) : Bool := s.toList.all isBlank

theorem trimStart_cons (c : Char) (rest : List Char) :
    trimStart (c :: rest) = if isBlank c then trimStart rest else c :: rest :=
  List.dropWhile_cons

theorem trimStart_eq_nil_iff (cs : List Char) : trimStart cs = [] ↔ cs.all isBlank = true := by
  induction cs with
  | nil => simp [trimStart]
  | cons c rest ih =>
    rw [trimStart_cons, List.all_cons]
    by_cases h : isBlank c = true
    · rw [if_pos h, ih, h, Bool.true_and]
    · simp [h]

theorem trimChars_cons {c : Char} (mark : isBlank c = false) (rest : List Char) :
    trimChars (c :: rest) = c :: trimEnd rest := by
  have alone : [c].dropWhile isBlank = [c] := by rw [List.dropWhile_cons, mark]; rfl
  rw [trimChars, trimStart_cons, mark, if_neg Bool.false_ne_true, trimEnd, trimEnd,
    List.reverse_cons, List.dropWhile_append]
  split
  · next empty => rw [alone, List.isEmpty_iff.1 empty]; rfl
  · rw [List.reverse_append]; rfl

theorem trimEnd_of_trimmed {cs : List Char} (trimmed : trimChars cs = cs) : trimEnd cs = cs := by
  have shorter : (trimEnd (trimStart cs)).length ≤ (trimStart cs).length := by
    rw [trimEnd, List.length_reverse, ← @List.length_reverse _ (trimStart cs)]
    exact (List.dropWhile_sublist isBlank).length_le
  rw [← trimChars, trimmed] at shorter
  have start : trimStart cs = cs :=
    (List.dropWhile_sublist isBlank).eq_of_length_le shorter
  rwa [trimChars, start] at trimmed

theorem trimEnd_append {after : List Char} (blank : after.all isBlank = true) (cs : List Char) :
    trimEnd (cs ++ after) = trimEnd cs := by
  have each : ∀ c ∈ after.reverse, isBlank c = true := fun c member =>
    List.all_eq_true.1 blank c (List.mem_reverse.1 member)
  rw [trimEnd, trimEnd, List.reverse_append, List.dropWhile_append_of_pos each]

theorem trimChars_padded {before after : List Char} (front : before.all isBlank = true)
    (back : after.all isBlank = true) (cs : List Char) :
    trimChars (before ++ cs ++ after) = trimChars cs := by
  rw [trimChars, List.append_assoc, trimStart,
    List.dropWhile_append_of_pos (List.all_eq_true.1 front), List.dropWhile_append]
  split
  · next empty =>
    have none : trimStart cs = [] := List.isEmpty_iff.1 empty
    rw [← trimStart, (trimStart_eq_nil_iff after).2 back, trimChars, none]
  · rw [trimEnd_append back, trimChars, trimStart]

theorem trimStart_of_head {c : Char} {rest : List Char} (solid : isBlank c = false) :
    trimStart (c :: rest) = c :: rest := by
  rw [trimStart_cons, solid, if_neg Bool.false_ne_true]

theorem trimStart_of_solid {cs : List Char} (solid : ∀ c ∈ cs, isBlank c = false) :
    trimStart cs = cs := by
  cases cs with
  | nil => rfl
  | cons c rest => exact trimStart_of_head (solid c List.mem_cons_self)

theorem trimChars_of_solid {cs : List Char} (solid : ∀ c ∈ cs, isBlank c = false) :
    trimChars cs = cs := by
  have back : trimStart cs.reverse = cs.reverse :=
    trimStart_of_solid fun c member => solid c (List.mem_reverse.1 member)
  rw [trimChars, trimStart_of_solid solid, trimEnd, ← trimStart, back, List.reverse_reverse]

end Stepwise.Text
