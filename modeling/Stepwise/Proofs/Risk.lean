import Stepwise.Proofs.Run.Gate
import Stepwise.Proofs.Text.Case
/-!
The risk of a command line, and of what is written into it. No pattern has a sigma in it, so whether
one is found depends on the lower-case forms of the characters and not on where they stand. What is
found in a command is then found in every line that has the command in it, in either case of its
letters, and such a line is refused wherever the command is.
-/

namespace Stepwise

namespace RiskLevel

theorem rank_inj {a b : RiskLevel} (same : a.rank = b.rank) : a = b := by
  cases a <;> cases b <;> simp [rank] at same ⊢

theorem eq_high {level : RiskLevel} (high : RiskLevel.high ≤ level) : level = .high := by
  cases level with
  | high => rfl
  | low | medium => exact absurd high (by decide)

end RiskLevel

namespace Risk

/-- The patterns that tell a level from those below it. Every command has the empty text in it. -/
def patternsOf : RiskLevel → List String
  | .low => [""]
  | .medium => highPatterns ++ mediumPatterns
  | .high => highPatterns

def Holds (command pattern : String) : Prop :=
  pattern.toList <:+: command.toList.flatMap Text.lowerAnywhere

theorem patterns_sigmaless :
    ∀ p ∈ highPatterns ++ mediumPatterns, 'σ' ∉ p.toList ∧ 'ς' ∉ p.toList := by
  decide +kernel

theorem matchesAny_lowered {patterns : List String} {command : String}
    (known : patterns ⊆ highPatterns ++ mediumPatterns) :
    matchesAny patterns (Text.lowerChars command.toList) = true ↔
      ∃ p ∈ patterns, Holds command p := by
  rw [matchesAny_iff]
  refine exists_congr fun p => and_congr_right fun member => ?_
  obtain ⟨small, final⟩ := patterns_sigmaless p (known member)
  rw [Holds, ← Text.map_sigmaless_lowerChars, Text.infix_map_sigmaless small final]

theorem le_classify_iff {level : RiskLevel} {command : String} :
    level ≤ classify command ↔ ∃ p ∈ patternsOf level, Holds command p := by
  have high : _ ↔ ∃ p ∈ highPatterns, Holds command p :=
    matchesAny_lowered (List.subset_append_left _ _)
  have medium : _ ↔ ∃ p ∈ mediumPatterns, Holds command p :=
    matchesAny_lowered (List.subset_append_right _ _)
  cases level with
  | low => exact iff_of_true (Nat.zero_le _) ⟨"", List.mem_singleton_self _, List.nil_infix⟩
  | medium =>
    simp only [patternsOf, List.mem_append, or_and_right, exists_or, ← high, ← medium]
    unfold classify classifyChars
    split
    · next found => exact iff_of_true (by decide) (.inl found)
    · next notHigh =>
      split
      · next found => exact iff_of_true (by decide) (.inr found)
      · next notMedium => exact iff_of_false (by decide) (not_or.2 ⟨notHigh, notMedium⟩)
  | high =>
    rw [patternsOf, ← high]
    unfold classify classifyChars
    split
    · next found => exact iff_of_true (by decide) found
    · next notHigh =>
      refine iff_of_false ?_ notHigh
      split
      · decide
      · decide

theorem classify_mono {command line : String}
    (holds : ∀ p, Holds command p → Holds line p) : classify command ≤ classify line := by
  obtain ⟨p, member, found⟩ := le_classify_iff.1 (Nat.le_refl (classify command).rank)
  exact le_classify_iff.2 ⟨p, member, holds p found⟩

theorem Holds.embedded {command pattern : String} (holds : Holds command pattern)
    (before after : String) : Holds (before ++ command ++ after) pattern := by
  unfold Holds at holds ⊢
  rw [String.toList_append, String.toList_append, List.flatMap_append, List.flatMap_append]
  exact holds.trans (List.infix_append _ _ _)

theorem holds_sameButCase {s t : String} (same : Text.SameButCase s t) (pattern : String) :
    Holds s pattern ↔ Holds t pattern := by
  rw [Holds, Holds, same.lowered]

theorem classify_sameButCase {s t : String} (same : Text.SameButCase s t) :
    classify s = classify t := by
  have up : classify s ≤ classify t := classify_mono fun p => (holds_sameButCase same p).1
  have down : classify t ≤ classify s := classify_mono fun p => (holds_sameButCase same p).2
  exact RiskLevel.rank_inj (Nat.le_antisymm up down)

end Risk

theorem Options.refuses_of_le {options : Options} {command line : String}
    (riskier : Risk.classify command ≤ Risk.classify line)
    (refused : options.refuses command = true) : options.refuses line = true := by
  obtain ⟨low, high⟩ := refuses_iff.1 refused
  rw [high] at riskier
  exact refuses_iff.2 ⟨low, RiskLevel.eq_high riskier⟩

theorem attempt_refused {options : Options} {v : Variables} {template : String}
    (refused : options.refuses (v.fill template) = true) :
    attempt options v template = .done (.blocked (v.fill template) .high) := by
  have high := (Options.refuses_iff.1 refused).2
  have blocked : Risk.isBlocked options.riskLevel (Risk.classify (v.fill template)) = true :=
    refused
  rw [attempt, if_pos blocked, high]

/-- What is written around a command can only raise its risk, and the case of ASCII letters is
nothing to it. Where a command is refused, so is every template that becomes a line with the command
in it, in either case of its letters. -/
theorem embedding_raises_risk (before command after : String) :
    Risk.classify command ≤ Risk.classify (before ++ command ++ after) ∧
    (∀ other, Text.SameButCase command other → Risk.classify other = Risk.classify command) ∧
    ∀ (options : Options) (line : String), Text.SameButCase line (before ++ command ++ after) →
      options.refuses command = true →
        options.refuses line = true ∧
          ∀ (v : Variables) (template : String), v.fill template = line →
            attempt options v template = .done (.blocked line .high) := by
  have raised : Risk.classify command ≤ Risk.classify (before ++ command ++ after) :=
    Risk.classify_mono fun p holds => holds.embedded before after
  refine ⟨raised, fun other same => (Risk.classify_sameButCase same).symm, ?_⟩
  intro options line same refused
  have riskier : Risk.classify command ≤ Risk.classify line := by
    rw [Risk.classify_sameButCase same]
    exact raised
  have refusedLine := Options.refuses_of_le riskier refused
  refine ⟨refusedLine, ?_⟩
  rintro v template rfl
  exact attempt_refused refusedLine

/-- The sigma ends a word in the command, and in the line it no longer does. -/
theorem embedded_mkfs :
    let safe := { Options.standard with riskLevel := .low }
    safe.refuses "mkfsΣ" = true ∧
      Text.SameButCase "ΟΣ; mkFSΣα /dev/sdb1" ("ΟΣ; " ++ "mkfsΣ" ++ "α /dev/sdb1") ∧
      safe.refuses "ΟΣ; mkFSΣα /dev/sdb1" = true := by
  intro safe
  have refused : safe.refuses "mkfsΣ" = true := by decide +kernel
  have same : Text.SameButCase "ΟΣ; mkFSΣα /dev/sdb1" ("ΟΣ; " ++ "mkfsΣ" ++ "α /dev/sdb1") := by
    decide +kernel
  obtain ⟨-, -, lines⟩ := embedding_raises_risk "ΟΣ; " "mkfsΣ" "α /dev/sdb1"
  exact ⟨refused, same, (lines safe _ same refused).1⟩

end Stepwise
