import Mathlib.Data.List.TakeWhile
import Stepwise.Text.Blank
/-!
What is left of a text without the blanks around it. It is the one text that neither begins nor ends
with a blank and becomes the other one by blanks around it.
-/

namespace Stepwise.Text

def Around (cs : List Char) (s : String) : Prop :=
  ∃ before after, before.all isBlank = true ∧ after.all isBlank = true ∧
    s.toList = before ++ cs ++ after

/-- What is left of a text without the blanks around it. -/
structure Trims (left s : String) : Prop where
  around : Around left.toList s
  front : ∀ c ∈ left.toList.head?, isBlank c = false
  back : ∀ c ∈ left.toList.getLast?, isBlank c = false

theorem trimEnd_append_left {cs : List Char} (solid : trimEnd cs ≠ []) (front : List Char) :
    trimEnd (front ++ cs) = front ++ trimEnd cs := by
  have left : (cs.reverse.dropWhile isBlank).isEmpty = false := by
    simpa [trimEnd] using solid
  rw [trimEnd, trimEnd, List.reverse_append, List.dropWhile_append, left,
    if_neg Bool.false_ne_true, List.reverse_append, List.reverse_reverse]

theorem around_trimChars (s : String) : Around (trimChars s.toList) s := by
  refine ⟨s.toList.takeWhile isBlank, ((trimStart s.toList).reverse.takeWhile isBlank).reverse,
    List.all_takeWhile, ?_, ?_⟩
  · rw [List.all_reverse]
    exact List.all_takeWhile
  · rw [List.append_assoc, trimChars, trimEnd, ← List.reverse_append,
      List.takeWhile_append_dropWhile, List.reverse_reverse, trimStart,
      List.takeWhile_append_dropWhile]

theorem Around.trimChars_eq {cs : List Char} {s : String} (around : Around cs s) :
    trimChars s.toList = trimChars cs := by
  obtain ⟨before, after, front, back, text⟩ := around
  rw [text, trimChars_padded front back]

theorem Around.trimmed {cs : List Char} {s : String} (around : Around cs s)
    (solid : ∀ c ∈ cs, isBlank c = false) : trimChars s.toList = cs := by
  rw [around.trimChars_eq, trimChars_of_solid solid]

theorem dropWhile_head {p : Char → Bool} {cs : List Char} :
    ∀ c ∈ (cs.dropWhile p).head?, p c = false := by
  intro c front
  have stops := List.head?_dropWhile_not p cs
  rw [Option.mem_def] at front
  rwa [front] at stops

theorem trimChars_head {cs : List Char} : ∀ c ∈ (trimChars cs).head?, isBlank c = false := by
  intro c front
  have stops : ∀ d ∈ (trimStart cs).head?, isBlank d = false := dropWhile_head
  rw [trimChars] at front
  cases start : trimStart cs with
  | nil =>
    rw [start] at front
    simp [trimEnd] at front
  | cons d rest =>
    have solid : isBlank d = false := stops d (by rw [start]; rfl)
    have kept := trimChars_cons solid rest
    rw [trimChars, trimStart_of_head solid] at kept
    rw [start, kept] at front
    rwa [← Option.some.inj front]

theorem trimChars_last {cs : List Char} : ∀ c ∈ (trimChars cs).getLast?, isBlank c = false := by
  intro c back
  rw [trimChars, trimEnd, List.getLast?_reverse] at back
  exact dropWhile_head c back

theorem dropWhile_of_head {p : Char → Bool} {cs : List Char} (stops : ∀ c ∈ cs.head?, p c = false) :
    cs.dropWhile p = cs := by
  cases cs with
  | nil => rfl
  | cons c rest => rw [List.dropWhile_cons, stops c rfl, if_neg Bool.false_ne_true]

theorem trims_iff {left s : String} : Trims left s ↔ left = trim s := by
  constructor
  · intro trims
    have back : left.toList.reverse.dropWhile isBlank = left.toList.reverse :=
      dropWhile_of_head (by simpa using trims.back)
    rw [trim, trims.around.trimChars_eq, trimChars, trimStart, dropWhile_of_head trims.front,
      trimEnd, back, List.reverse_reverse, String.ofList_toList]
  · rintro rfl
    have chars : (trim s).toList = trimChars s.toList := String.toList_ofList
    refine ⟨?_, ?_, ?_⟩
    · rw [chars]
      exact around_trimChars s
    · rw [chars]
      exact trimChars_head
    · rw [chars]
      exact trimChars_last

theorem trim_trim (s : String) : trim (trim s) = trim s := by
  have same := (around_trimChars s).trimChars_eq
  rw [trim, trim, String.toList_ofList, ← same]

theorem trim_eq_self_iff {s : String} : trim s = s ↔ trimChars s.toList = s.toList := by
  rw [trim, ← String.toList_inj, String.toList_ofList]

end Stepwise.Text
