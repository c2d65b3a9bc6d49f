import Stepwise.Options
import Stepwise.Proofs.Json.InOrder
/-!
Analyses written and read back. Whatever an analysis says besides its intent and its summary of
risks it says again when it is written, under the same names.
-/

namespace Stepwise

open Json (Arranges Inherited Members Piece Spelt Yields)

variable {f : Json → Json}

theorem RiskSummary.decode_written (arranges : Arranges f) (r : RiskSummary) :
    decode (f r.toJson) = .ok r := by
  have overall : RiskLevel.names.lookup r.overall.name = some r.overall := by
    cases r.overall <;> rfl
  obtain ⟨items, written, spelt⟩ := arranges.spelt
    [("overall", .str r.overall.name), ("high_risk_steps", Json.texts r.highRiskSteps)] (by simp)
  rw [toJson, written]
  simp only [decode, Json.record, Json.fromMembers]
  rw [spelt.required "overall" (by simp) (arranges.choice overall),
    spelt.optional "high_risk_steps" (by simp) (arranges.texts r.highRiskSteps)]
  rfl

namespace Analysis

def isExtra (name : String) : Bool := name != "intent" && name != "risk_summary"

/-- An analysis that can be told from what is written of it, where values with some property are
written as they are. -/
structure Legible (Q : Json → Prop) (a : Analysis) : Prop where
  apart : ∀ e ∈ a.extra.entries, isExtra e.1 = true
  free : ∀ e ∈ a.extra.entries, Q e.2

def own (a : Analysis) : List (String × Json) :=
  (a.intent.map fun s => ("intent", Json.str s)).toList ++
    (a.riskSummary.map fun r => ("risk_summary", r.toJson)).toList

theorem toJson_eq (a : Analysis) : a.toJson = .obj (a.own ++ a.extra.entries) := rfl

theorem own_names (a : Analysis) : (a.own.map (·.1)).Sublist ["intent", "risk_summary"] := by
  unfold own
  cases a.intent <;> cases a.riskSummary <;> simp

theorem not_isExtra_own {a : Analysis} {m : String × Json} (member : m ∈ a.own) :
    isExtra m.1 = false := by
  have name := a.own_names.subset (List.mem_map_of_mem member)
  simp only [List.mem_cons, List.not_mem_nil, or_false] at name
  rcases name with same | same
  · simp [isExtra, same]
  · simp [isExtra, same]

namespace Legible

variable {Q : Json → Prop} {a : Analysis} (legible : a.Legible Q)
include legible

theorem distinct : ((a.own ++ a.extra.entries).map (·.1)).Nodup := by
  rw [List.map_append, List.nodup_append]
  -- the two lists share no name, for what else is said bears neither of an analysis's own names
  refine ⟨(by simp : ["intent", "risk_summary"].Nodup).sublist a.own_names, a.extra.keys_nodup, ?_⟩
  rintro _ own _ other rfl
  obtain ⟨m, member, rfl⟩ := List.mem_map.1 own
  obtain ⟨e, extra, same⟩ := List.mem_map.1 other
  have apart := legible.apart e extra
  rw [same, not_isExtra_own member] at apart
  cases apart

theorem filter_extra :
    (a.own ++ a.extra.entries).filter (fun m => isExtra m.1) = a.extra.entries := by
  have taken : a.own.filter (fun m => isExtra m.1) = [] :=
    List.filter_eq_nil_iff.2 fun m member => by simp [not_isExtra_own member]
  rw [List.filter_append, taken, List.filter_eq_self.2 legible.apart, List.nil_append]

theorem absent {name : String} (mine : isExtra name = false) (unsaid : name ∉ a.own.map (·.1)) :
    name ∉ (a.own ++ a.extra.entries).map (·.1) := by
  intro member
  rw [List.map_append] at member
  rcases List.mem_append.1 member with own | extra
  · exact unsaid own
  · obtain ⟨e, there, rfl⟩ := List.mem_map.1 extra
    simp [legible.apart e there] at mine

end Legible

section

variable {a : Analysis} {items : List (String × Json)}
  (spelt : Spelt f items (a.own ++ a.extra.entries))
include spelt

theorem intent_written (arranges : Arranges f) (legible : a.Legible fun j => f j = j) :
    Members.optional ⟨items, .missing, false⟩ "intent" (Json.orNull Json.text) none =
      .ok a.intent := by
  have reads (s : String) : Json.orNull Json.text (f (.str s)) = .ok (some s) :=
    arranges.textOrNull (some s)
  refine spelt.whereThere "intent" (fun s there => ?_) (fun unsaid => ?_) fun s _ => reads s
  · exact List.mem_append_left _ (by simp [own, Option.mem_def.1 there])
  · exact legible.absent rfl (by cases a.riskSummary <;> simp [own, unsaid])

theorem riskSummary_written (arranges : Arranges f) (legible : a.Legible fun j => f j = j) :
    Members.optional ⟨items, .missing, false⟩ "risk_summary" (Json.orNull RiskSummary.decode)
      none = .ok a.riskSummary := by
  have reads (r : RiskSummary) : Json.orNull RiskSummary.decode (f r.toJson) = .ok (some r) :=
    arranges.orNull (o := some r) (by simp [RiskSummary.decode, Json.record, Json.wrong])
      fun _ _ => RiskSummary.decode_written arranges _
  refine spelt.whereThere "risk_summary" (fun r there => ?_) (fun unsaid => ?_) fun r _ => reads r
  · exact List.mem_append_left _ (by simp [own, Option.mem_def.1 there])
  · exact legible.absent rfl (by cases a.intent <;> simp [own, unsaid])

theorem extra_written (legible : a.Legible fun j => f j = j) :
    (items.filter fun m => isExtra m.1).Perm a.extra.entries := by
  have same : a.extra.entries.map (fun m => (m.1, f m.2)) = a.extra.entries :=
    Json.map_eq_self_iff.2 fun e member => by rw [legible.free e member]
  have rest := (spelt.filter isExtra).perm
  rwa [legible.filter_extra, same] at rest

end

theorem decode_obj (members : List (String × Json)) :
    decode (.obj members) = do
      let (intent, summary) ← Json.fromMembers (fun m =>
        Prod.mk <$> m.optional "intent" (Json.orNull Json.text) none <*>
          m.optional "risk_summary" (Json.orNull RiskSummary.decode) none) members
      return ⟨intent, summary, Table.ofList (members.filter fun m => isExtra m.1)⟩ := rfl

theorem decode_written (arranges : Arranges f) {a : Analysis}
    (legible : a.Legible fun j => f j = j) : decode (f a.toJson) = .ok a := by
  obtain ⟨items, written, spelt⟩ := arranges.spelt _ legible.distinct
  rw [toJson_eq, written, decode_obj, Table.ofList_of_perm (extra_written spelt legible)]
  simp only [Json.fromMembers]
  rw [intent_written spelt arranges legible, riskSummary_written spelt arranges legible]
  rfl

theorem yields {Q : Json → Prop} (inherited : Inherited Q) : Yields Q decode (Legible Q) := by
  intro j a held read
  cases j with
  | obj members =>
    obtain ⟨_, _, same⟩ := Json.bind_eq_ok.1 read
    cases same
    have left (e : String × Json)
        (member : e ∈ (Table.ofList (members.filter fun m => isExtra m.1)).entries) :
        e ∈ members ∧ isExtra e.1 = true :=
      List.mem_filter.1 (Table.mem_of_mem_ofList member)
    exact ⟨fun e member => (left e member).2, fun e member =>
      inherited.member held e (left e member).1⟩
  | _ => cases read

theorem member?_written (arranges : Arranges f) {a : Analysis}
    (legible : a.Legible fun j => f j = j) {name : String} (extra : isExtra name = true) :
    (f a.toJson).member? name = a.extra.get? name := by
  obtain ⟨items, written, spelt⟩ := arranges.spelt _ legible.distinct
  have kept := Table.lookup_filter_keys isExtra items name
  rw [if_pos extra] at kept
  rw [toJson_eq, written, Json.member?, ← kept]
  exact Table.lookup_of_perm (extra_written spelt legible) a.extra.keys_nodup name

theorem get?_extra {members : List (String × Json)} (distinct : (members.map (·.1)).Nodup)
    {a : Analysis} (read : decode (.obj members) = .ok a) {name : String}
    (extra : isExtra name = true) : a.extra.get? name = members.lookup name := by
  obtain ⟨_, _, same⟩ := Json.bind_eq_ok.1 read
  cases same
  have kept := Table.lookup_filter_keys isExtra members name
  rw [if_pos extra] at kept
  exact (Table.get?_ofList (distinct.sublist (List.filter_sublist.map _)) name).trans kept

/-- What was read from a value is read back from what is then written. -/
theorem decode_again {v : Json} {a : Analysis} (read : decode v = .ok a) :
    decode a.toJson = .ok a ∧ (v.InOrder → decode a.toJson.sorted = .ok a) :=
  ⟨decode_written Json.arranges_id (yields Json.inherited_id v a rfl read), fun inOrder =>
    decode_written Json.arranges_sorted (yields Json.inherited_inOrder v a inOrder read)⟩

theorem extra_kept {v : Json} {a : Analysis} (read : decode v = .ok a) {name : String}
    (extra : isExtra name = true) :
    (∀ members, v = .obj members → (members.map (·.1)).Nodup →
      a.toJson.member? name = v.member? name) ∧
    (v.InOrder → a.toJson.sorted.member? name = v.member? name) := by
  have held (members) (same : v = .obj members) (distinct : (members.map (·.1)).Nodup) :
      a.extra.get? name = v.member? name := by
    subst same
    exact get?_extra distinct read extra
  refine ⟨fun members same distinct => ?_, fun inOrder => ?_⟩
  · have written := member?_written Json.arranges_id (yields Json.inherited_id v a rfl read) extra
    exact written.trans (held members same distinct)
  · have written := member?_written Json.arranges_sorted
      (yields Json.inherited_inOrder v a inOrder read) extra
    cases v with
    | obj members =>
      have ordered : (members.map (·.1)).Nodup :=
        Table.keys_nodup ⟨members, (Json.inOrder_obj.1 inOrder).1⟩
      exact written.trans (held members rfl ordered)
    | _ => cases read

end Analysis

end Stepwise
