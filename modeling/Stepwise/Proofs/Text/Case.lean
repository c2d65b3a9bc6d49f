import Mathlib
import Stepwise.Text.Case
import Stepwise.Text.Word
/-!
What letter case has to do with ASCII. The lower-case form of a text is that of its characters one
by one, as soon as the two small sigmas are taken for one letter, so it does not tell which case the
ASCII letters of the text had. And whatever folds to an ASCII character of words is itself one. A
text of small ASCII letters is the lower-case form of just those that differ in the case of such
letters, unless it has a k (`lower_eq_iff`).
-/

namespace Stepwise

namespace Text

def SameButCase (s t : String) : Prop := s.toList.map Char.toLower = t.toList.map Char.toLower

instance (s t : String) : Decidable (SameButCase s t) :=
  inferInstanceAs (Decidable (s.toList.map Char.toLower = t.toList.map Char.toLower))

def sigmaless (c : Char) : Char := if c = 'ς' then 'σ' else c

def lowerAnywhere (c : Char) : List Char :=
  if c = 'Σ' then ['σ']
  else if c = 'İ' then ['i', '\u0307']
  else [sigmaless (lowerChar c)]

theorem map_sigmaless_lowerAt (before : List Char) (c : Char) (after : List Char) :
    (lowerAt before c after).map sigmaless = lowerAnywhere c := by
  unfold lowerAt lowerAnywhere
  split
  · -- the place decides between the two sigmas, and nothing else
    split
    · rfl
    · rfl
  · split
    · rfl
    · rfl

theorem map_sigmaless_lowerFrom (before cs : List Char) :
    (lowerFrom before cs).map sigmaless = cs.flatMap lowerAnywhere := by
  induction cs generalizing before with
  | nil => rfl
  | cons c after ih =>
    rw [lowerFrom, List.map_append, map_sigmaless_lowerAt, ih, List.flatMap_cons]

theorem map_sigmaless_lowerChars (cs : List Char) :
    (lowerChars cs).map sigmaless = cs.flatMap lowerAnywhere :=
  map_sigmaless_lowerFrom [] cs

theorem infix_map_sigmaless {pattern cs : List Char} (small : 'σ' ∉ pattern)
    (final : 'ς' ∉ pattern) : pattern <:+: cs.map sigmaless ↔ pattern <:+: cs := by
  have fixed : pattern.map sigmaless = pattern := by
    refine List.map_congr_left (g := id) ?_ |>.trans pattern.map_id
    intro c member
    have other : c ≠ 'ς' := by
      rintro rfl
      exact final member
    rw [sigmaless, if_neg other, id]
  constructor
  · intro inside
    obtain ⟨source, inside, same⟩ := List.infix_map_iff.1 inside
    -- nothing but a sigma is changed into another character, and that one would be in the pattern
    have unchanged : source.map sigmaless = source := by
      refine List.map_congr_left (g := id) ?_ |>.trans source.map_id
      intro c member
      have image : sigmaless c ∈ pattern := same ▸ List.mem_map_of_mem member
      have other : c ≠ 'ς' := by
        rintro rfl
        exact small image
      rw [sigmaless, if_neg other, id]
    rwa [same, unchanged]
  · intro inside
    rw [← fixed]
    exact inside.map sigmaless

theorem isUpper_iff {c : Char} : c.isUpper = true ↔ 65 ≤ c.toNat ∧ c.toNat ≤ 90 := by
  simp [Char.isUpper, UInt32.le_iff_toNat_le]

theorem toNat_toLower {c : Char} (upper : c.isUpper = true) : c.toLower.toNat = c.toNat + 32 := by
  have range := isUpper_iff.1 upper
  have valid : (c.toNat + 32).isValidChar := .inl (by omega)
  rw [Char.toLower_eq_of_isUpper upper, Char.toNat_ofNat, if_pos valid]

theorem toLower_ascii {c : Char} (ascii : c.toNat < 0x80) : c.toLower.toNat < 0x80 := by
  by_cases upper : c.isUpper = true
  · have range := isUpper_iff.1 upper
    have shifted := toNat_toLower upper
    omega
  · rwa [Char.toLower_eq_of_not_isUpper upper]

theorem lowerAnywhere_ascii {c : Char} (ascii : c.toNat < 0x80) :
    lowerAnywhere c = [sigmaless c.toLower] := by
  have capitalSigma : c ≠ 'Σ' := by
    rintro rfl
    exact absurd ascii (by decide)
  have dotted : c ≠ 'İ' := by
    rintro rfl
    exact absurd ascii (by decide)
  rw [lowerAnywhere, if_neg capitalSigma, if_neg dotted, lowerChar, if_pos ascii]

theorem lowerAnywhere_toLower (c : Char) : lowerAnywhere c.toLower = lowerAnywhere c := by
  by_cases upper : c.isUpper = true
  · have range := isUpper_iff.1 upper
    have ascii : c.toNat < 0x80 := by omega
    rw [lowerAnywhere_ascii (toLower_ascii ascii), lowerAnywhere_ascii ascii,
      Char.toLower_toLower_eq_toLower]
  · rw [Char.toLower_eq_of_not_isUpper upper]

theorem SameButCase.lowered {s t : String} (same : SameButCase s t) :
    s.toList.flatMap lowerAnywhere = t.toList.flatMap lowerAnywhere := by
  have caseless (cs : List Char) :
      (cs.map Char.toLower).flatMap lowerAnywhere = cs.flatMap lowerAnywhere := by
    rw [List.flatMap_map]
    exact List.flatMap_congr fun c _ => lowerAnywhere_toLower c
  rw [← caseless s.toList, ← caseless t.toList, same]

theorem isWord_ascii {c : Char} (ascii : c.toNat < 0x80) :
    isWord c = (c.isAlphanum || c == '_') := by
  rw [isWord, if_pos ascii]

theorem isWord_toLower (c : Char) : isWord c.toLower = isWord c := by
  by_cases upper : c.isUpper = true
  · have range := isUpper_iff.1 upper
    have ascii : c.toNat < 0x80 := by omega
    have letter : c.isAlpha = true := by simp [Char.isAlpha, upper]
    rw [isWord_ascii (toLower_ascii ascii), isWord_ascii ascii, Char.isAlphanum, Char.isAlphanum,
      Char.isAlpha_toLower_eq_isAlpha, letter]
    rfl
  · rw [Char.toLower_eq_of_not_isUpper upper]

/-- Of the characters above ASCII only letters fold into it, each listed by itself. -/
theorem foldRuns_ascii : ∀ r ∈ foldRuns, 0x80 ≤ r.first + r.offset ∨
    r.first = r.last ∧ isWord (Char.ofNat r.first) = true := by
  decide +kernel

theorem isWord_of_applyRuns {c : Char} (above : 0x80 ≤ c.toNat)
    (ascii : (applyRuns foldRuns c).toNat < 0x80) (mark : (applyRuns foldRuns c).toNat ≠ 0) :
    isWord c = true := by
  unfold applyRuns at ascii mark
  split at ascii
  · next r found =>
    have covered : r.covers c.toNat = true := by simpa using List.find?_some found
    simp only [CaseRun.covers, Bool.and_eq_true, decide_eq_true_eq] at covered
    obtain ⟨⟨first, last⟩, -⟩ := covered
    rw [found] at mark
    rw [Char.toNat_ofNat] at ascii mark
    rcases foldRuns_ascii r (List.mem_of_find?_eq_some found) with high | ⟨single, word⟩
    · split at ascii
      · omega
      · next invalid => simp [invalid] at mark
    · have own : c.toNat = r.first := by omega
      rwa [← own, Char.ofNat_toNat] at word
  · omega

theorem isWord_of_fold {n c : Char} (ascii : n.toNat < 0x80) (word : isWord n = true)
    (same : fold c = fold n) : isWord c = true := by
  have folded : fold n = n.toLower := by rw [fold, if_pos ascii]
  have image : isWord n.toLower = true := by rw [isWord_toLower, word]
  by_cases low : c.toNat < 0x80
  · have own : c.toLower = n.toLower := by rw [← folded, ← same, fold, if_pos low]
    rw [← isWord_toLower, own, image]
  · have own : applyRuns foldRuns c = n.toLower := by rw [← folded, ← same, fold, if_neg low]
    refine isWord_of_applyRuns (Nat.le_of_not_lt low) ?_ ?_
    · rw [own]
      exact toLower_ascii ascii
    · intro null
      rw [own] at null
      rw [isWord_ascii (toLower_ascii ascii), ← Char.ofNat_toNat n.toLower, null] at image
      exact absurd image (by decide)

theorem isLower_iff {c : Char} : c.isLower = true ↔ 97 ≤ c.toNat ∧ c.toNat ≤ 122 := by
  simp [Char.isLower, UInt32.le_iff_toNat_le]

/-- Of the characters above ASCII only the sign of the kelvin becomes an ASCII letter, a k. -/
theorem lowerRuns_ascii : ∀ r ∈ lowerRuns, 0x80 ≤ r.first + r.offset ∨
    r.first = r.last ∧ r.first + r.offset = 'k'.toNat := by
  decide +kernel

theorem applyRuns_lowerRuns {c : Char} (above : 0x80 ≤ c.toNat) :
    ¬((applyRuns lowerRuns c).isLower = true ∧ applyRuns lowerRuns c ≠ 'k') := by
  rintro ⟨letter, other⟩
  have range := isLower_iff.1 letter
  unfold applyRuns at range other
  split at range
  · next r found =>
    have covered : r.covers c.toNat = true := by simpa using List.find?_some found
    simp only [CaseRun.covers, Bool.and_eq_true, decide_eq_true_eq] at covered
    obtain ⟨⟨first, last⟩, -⟩ := covered
    rcases lowerRuns_ascii r (List.mem_of_find?_eq_some found) with high | ⟨single, isK⟩
    · rw [Char.toNat_ofNat] at range
      split at range
      · omega
      · omega
    · have own : c.toNat = r.first := by omega
      rw [found] at other
      apply other
      simp only [own, isK, Int.toNat_natCast, Char.ofNat_toNat]
  · omega

theorem lowerAt_ascii {c : Char} (ascii : c.toNat < 0x80) (before after : List Char) :
    lowerAt before c after = [c.toLower] := by
  have capitalSigma : c ≠ 'Σ' := by
    rintro rfl
    exact absurd ascii (by decide)
  have dotted : c ≠ 'İ' := by
    rintro rfl
    exact absurd ascii (by decide)
  rw [lowerAt, if_neg capitalSigma, if_neg dotted, lowerChar, if_pos ascii]

theorem lowerAt_above {c : Char} (above : 0x80 ≤ c.toNat) (before after : List Char) :
    ∃ d ∈ lowerAt before c after, ¬(d.isLower = true ∧ d ≠ 'k') := by
  unfold lowerAt
  split
  · split
    · exact ⟨'ς', by simp, by decide⟩
    · exact ⟨'σ', by simp, by decide⟩
  · split
    · exact ⟨'\u0307', by simp, by decide⟩
    · rw [lowerChar, if_neg (Nat.not_lt.2 above)]
      exact ⟨_, List.mem_singleton_self _, applyRuns_lowerRuns above⟩

theorem lowerFrom_eq_iff {before cs letters : List Char}
    (small : ∀ c ∈ letters, c.isLower = true ∧ c ≠ 'k') :
    lowerFrom before cs = letters ↔ cs.map Char.toLower = letters := by
  induction cs generalizing before letters with
  | nil => rfl
  | cons c after ih =>
    rw [lowerFrom, List.map_cons]
    by_cases ascii : c.toNat < 0x80
    · rw [lowerAt_ascii ascii, List.singleton_append]
      cases letters with
      | nil => simp
      | cons d letters =>
        rw [List.cons.injEq, List.cons.injEq,
          ih fun e member => small e (List.mem_cons_of_mem d member)]
    · have above := Nat.le_of_not_lt ascii
      constructor
      · rintro rfl
        obtain ⟨d, member, other⟩ := lowerAt_above above before after
        exact absurd (small d (List.mem_append_left _ member)) other
      · rintro rfl
        have caseless : c.toLower = c := by
          refine Char.toLower_eq_of_not_isUpper fun upper => ?_
          have range := isUpper_iff.1 upper
          omega
        have range := isLower_iff.1 (small _ List.mem_cons_self).1
        rw [caseless] at range
        omega

/-- Small ASCII letters, save for the k, are the lower-case form of just what differs from them in
the case of ASCII letters. -/
theorem lower_eq_iff {s t : String} (small : ∀ c ∈ t.toList, c.isLower = true ∧ c ≠ 'k') :
    lower s = t ↔ SameButCase s t := by
  have own : t.toList.map Char.toLower = t.toList := by
    refine (List.map_congr_left fun c member => ?_).trans t.toList.map_id
    refine Char.toLower_eq_of_not_isUpper fun upper => ?_
    have range := isUpper_iff.1 upper
    have letter := isLower_iff.1 (small c member).1
    omega
  rw [SameButCase, own, ← @lowerFrom_eq_iff [] _ _ small, ← lowerChars, lower,
    ← String.toList_inj, String.toList_ofList]

end Text

end Stepwise
