import Mathlib.Data.List.Forall2
import Stepwise.Proofs.Run.Reads
import Stepwise.Proofs.Template.Pattern
/-!
What a state makes of a template. It is read once, from the left, and each of its tokens gives way
to the value that the state finds for its name; a value is put in as it is, dollar signs and all.
-/

namespace Stepwise

open Template

inductive Variables.Puts (v : Variables) : Piece → List Char → Prop
  | plain (c : Char) : Puts v (.plain c) [c]
  | value {name : List Char} {isBraced : Bool} {value : String} {source : VariableSource}
      (found : v.find? (String.ofList name) = some (value, source)) :
      Puts v (.token name isBraced) value.toList
  | verbatim {name : List Char} {isBraced : Bool} (missing : v.find? (String.ofList name) = none) :
      Puts v (.token name isBraced) (Piece.token name isBraced).source

namespace Variables

variable {v : Variables}

theorem puts_iff {piece : Piece} {part : List Char} :
    v.Puts piece part ↔ part = piece.fill v.value? := by
  constructor
  · intro puts
    cases puts with
    | plain c => rfl
    | value found => simp [Piece.fill, value?, found]
    | verbatim missing => simp [Piece.fill, value?, missing]
  · rintro rfl
    cases piece with
    | plain c => exact .plain c
    | token name isBraced =>
      cases found : v.find? (String.ofList name) with
      | none => simpa [Piece.fill, value?, found] using Puts.verbatim found
      | some e => simpa [Piece.fill, value?, found] using Puts.value found

theorem toList_fill (text : String) :
    (v.fill text).toList = ((scan text.toList).map fun piece => piece.fill v.value?).flatten := by
  rw [fill, fillTemplate, fillChars, String.toList_ofList, List.flatMap_def]

theorem puts_scan (text : String) : ∃ parts, List.Forall₂ v.Puts (scan text.toList) parts ∧
    (v.fill text).toList = parts.flatten := by
  refine ⟨_, ?_, toList_fill text⟩
  exact List.forall₂_map_right_iff.2 (List.forall₂_same.2 fun piece _ => puts_iff.2 rfl)

theorem fill_unbound {text : String} (unbound : ∀ name ∈ tokenNames text, v.find? name = none) :
    v.fill text = text := by
  have source : ∀ piece ∈ scan text.toList, piece.fill v.value? = piece.source := by
    intro piece member
    cases piece with
    | plain c => rfl
    | token name isBraced =>
      have missing := unbound _ (List.mem_filterMap.2 ⟨_, member, rfl⟩)
      simp [Piece.fill, value?, missing]
  rw [← String.toList_inj, toList_fill, List.map_congr_left source, ← List.flatMap_def]
  exact (reads_scan text.toList).flatMap_source

theorem fill_append {c : Char} (apart : Apart c) (before after : String) :
    v.fill (before ++ String.singleton c ++ after) =
      v.fill before ++ String.singleton c ++ v.fill after := by
  rw [← String.toList_inj]
  simp [toList_fill, scan_append apart, Piece.fill]

/-- A state fills a template piece by piece: what it does not know stays as it was, what it is not
asked for is nothing to it, and a character apart from all tokens parts the work in two. -/
structure FillsBy (v : Variables) (text : String) (pieces : List Piece) : Prop where
  placed : ∃ parts, List.Forall₂ v.Puts pieces parts ∧ (v.fill text).toList = parts.flatten
  unbound : (∀ name ∈ tokenNames text, v.find? name = none) → v.fill text = text
  agreed : ∀ v', v.AgreeOn (tokenNames text) v' → v.fill text = v'.fill text
  parted : ∀ c after, Apart c →
    v.fill (text ++ String.singleton c ++ after) =
      v.fill text ++ String.singleton c ++ v.fill after

end Variables

/-- A template is read as one row of plain characters and tokens, by its grammar as by the first
matches of a pattern; its names are read off that row, and every state fills it by that row. -/
theorem template_filled (text : String) :
    ∃ pieces, (∀ others, Reads text.toList others ↔ others = pieces) ∧
      (∀ others, Pattern.token.Splits text.toList others ↔ others = pieces) ∧
      pieces.flatMap Piece.source = text.toList ∧
      tokenNames text = pieces.filterMap Piece.name? ∧
      ∀ v : Variables, v.FillsBy text pieces := by
  have reads := reads_scan text.toList
  refine ⟨scan text.toList, fun others => ⟨Reads.eq_scan, fun same => same ▸ reads⟩,
    fun others => Pattern.splits_iff, reads.flatMap_source, rfl, fun v => ?_⟩
  exact {
    placed := v.puts_scan text
    unbound := v.fill_unbound
    agreed := fun v' => v.fill_congr
    parted := fun c after apart => v.fill_append apart text after }

theorem dollar_put_in :
    let v := (RunState.holding "x" "$y").vars
    v.fill ("$$x" ++ String.singleton ' ' ++ "$y") = "$$y" ++ String.singleton ' ' ++ "$y" ∧
      v.fill "$y" = (RunState.holding "x" "z").vars.fill "$y" := by
  have only : tokenNames "$y" = ["y"] := by decide +kernel
  obtain ⟨_, -, -, -, -, left⟩ := template_filled "$$x"
  obtain ⟨_, -, -, -, -, right⟩ := template_filled "$y"
  constructor
  · rw [(left _).parted ' ' "$y" ⟨by decide, by decide⟩, (right _).unbound ?_]
    · rw [show (RunState.holding "x" "$y").vars.fill "$$x" = "$$y" by decide +kernel]
    · rw [only]
      intro name member
      obtain rfl := List.mem_singleton.1 member
      rfl
  · refine (right _).agreed _ fun name member => RunState.holding_others ?_ "$y" "z"
    rw [only] at member
    rw [List.mem_singleton.1 member]
    decide

end Stepwise
