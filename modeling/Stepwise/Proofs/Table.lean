import Stepwise.Table
import Mathlib.Data.List.Induction
/-!
Looking up a table from which keys have been taken, or whose values have been changed, and the keys
and the size of one that is written to. A table made of a list holds entries of that list, and all
of them where no key is repeated.
-/

namespace Stepwise

namespace Table

theorem lookup_filter_keys (keep : String → Bool) (l : List (String × α)) (key : String) :
    (l.filter fun e => keep e.1).lookup key = if keep key then l.lookup key else none := by
  induction l with
  | nil => simp
  | cons head rest ih =>
    obtain ⟨k, v⟩ := head
    rw [List.filter_cons, lookup_entry]
    by_cases same : key = k
    · subst same
      by_cases kept : keep key = true
      · simp [kept]
      · simp [kept, ih]
    · by_cases kept : keep k = true
      · simp [kept, lookup_entry, same, ih]
      · simp [kept, same, ih]

theorem get?_erase (t : Table α) (key other : String) :
    (t.erase key).get? other = if other = key then none else t.get? other := by
  have found := lookup_filter_keys (· != key) t.entries other
  by_cases same : other = key
  · simpa [get?, erase, same] using found
  · simpa [get?, erase, same] using found

theorem insert_same {t : Table α} {key : String} {value : α} (found : t.get? key = some value) :
    t.insert key value = t := by
  apply ext_get?
  intro other
  rw [get?_insert]
  split
  · next same => rw [same, found]
  · rfl

theorem contains_erase (t : Table α) (key other : String) :
    (t.erase key).contains other = (other != key && t.contains other) := by
  by_cases same : other = key
  · simp [contains, get?_erase, same]
  · simp [contains, get?_erase, same]

theorem contains_iff_mem_keys (t : Table α) (key : String) :
    t.contains key = true ↔ key ∈ t.keys := by
  simp only [contains, get?, keys, List.lookup_isSome_iff, List.mem_map, beq_iff_eq]
  constructor
  · rintro ⟨e, member, same⟩
    exact ⟨e, member, same.symm⟩
  · rintro ⟨e, member, same⟩
    exact ⟨e, member, same.symm⟩

theorem get?_map (f : α → β) (t : Table α) (key : String) :
    (t.map f).get? key = (t.get? key).map f := by
  obtain ⟨l, ordered⟩ := t
  change (l.map fun e => (e.1, f e.2)).lookup key = (l.lookup key).map f
  clear ordered
  induction l with
  | nil => rfl
  | cons head rest ih =>
    obtain ⟨k, v⟩ := head
    rw [List.map_cons, lookup_entry, lookup_entry]
    split
    · rfl
    · exact ih

theorem map_insert (f : α → β) (t : Table α) (key : String) (value : α) :
    (t.insert key value).map f = (t.map f).insert key (f value) := by
  apply ext_get?
  intro other
  rw [get?_map, get?_insert, get?_insert, get?_map]
  split
  · rfl
  · rfl

theorem keys_nodup (t : Table α) : t.keys.Nodup :=
  List.pairwise_map.2 (t.ordered.imp fun less same => absurd (same ▸ less) (String.lt_irrefl _))

theorem lookup_absent {key : String} {l : List (String × α)} (absent : ∀ e ∈ l, key ≠ e.1) :
    l.lookup key = none :=
  List.lookup_eq_none_iff.2 fun e member => by simpa using absent e member

theorem lookup_iff_mem {l : List (String × α)} (distinct : (l.map (·.1)).Nodup) {key : String}
    {value : α} : l.lookup key = some value ↔ (key, value) ∈ l := by
  induction l with
  | nil => simp
  | cons head rest ih =>
    obtain ⟨k, v⟩ := head
    obtain ⟨absent, later⟩ := List.nodup_cons.1 distinct
    rw [lookup_entry, List.mem_cons, Prod.mk.injEq]
    by_cases same : key = k
    · subst same
      have fresh : (key, value) ∉ rest := fun member => absent (List.mem_map.2 ⟨_, member, rfl⟩)
      simp [fresh, eq_comm]
    · simp [same, ih later]

theorem get?_iff_mem {t : Table α} {key : String} {value : α} :
    t.get? key = some value ↔ (key, value) ∈ t.entries :=
  lookup_iff_mem t.keys_nodup

theorem lookup_of_perm {l m : List (String × α)} (same : l.Perm m)
    (distinct : (m.map (·.1)).Nodup) (key : String) : l.lookup key = m.lookup key := by
  have distinct' : (l.map (·.1)).Nodup := (same.map Prod.fst).nodup_iff.2 distinct
  apply Option.ext
  intro value
  rw [lookup_iff_mem distinct', lookup_iff_mem distinct, same.mem_iff]

theorem get?_filter (t : Table α) (keep : String → α → Bool) (key : String) :
    (t.filter keep).get? key = (t.get? key).filter (keep key) := by
  apply Option.ext
  intro value
  rw [get?_iff_mem, Option.filter_eq_some_iff, get?_iff_mem]
  exact List.mem_filter

theorem length_insertEntry (key : String) (value : α) (l : List (String × α))
    (ordered : l.Pairwise fun a b => a.1 < b.1) :
    (insertEntry key value l).length =
      if (l.lookup key).isSome then l.length else l.length + 1 := by
  induction l with
  | nil => rfl
  | cons head rest ih =>
    obtain ⟨k, v⟩ := head
    obtain ⟨above, tail⟩ := List.pairwise_cons.1 ordered
    rw [insertEntry, lookup_entry]
    split
    · next less =>
      have absent : rest.lookup key = none := lookup_absent fun e member same =>
        absurd (String.lt_trans less (above e member)) (same ▸ String.lt_irrefl _)
      have differ : key ≠ k := fun same => absurd (same ▸ less) (String.lt_irrefl _)
      simp [absent, differ]
    · split
      · rfl
      · rw [List.length_cons, ih tail, List.length_cons]
        split
        · rfl
        · rfl

theorem size_insert (t : Table α) (key : String) (value : α) :
    (t.insert key value).size = if t.contains key then t.size else t.size + 1 :=
  length_insertEntry key value t.entries t.ordered

theorem size_filter_le (t : Table α) (keep : String → α → Bool) : (t.filter keep).size ≤ t.size :=
  List.length_filter_le _ _

theorem size_erase_le (t : Table α) (key : String) : (t.erase key).size ≤ t.size :=
  List.length_filter_le _ _

theorem insertEntry_perm {key : String} {value : α} {l : List (String × α)}
    (absent : key ∉ l.map (·.1)) : (insertEntry key value l).Perm ((key, value) :: l) := by
  induction l with
  | nil => exact .refl _
  | cons head rest ih =>
    obtain ⟨k, v⟩ := head
    obtain ⟨differ, later⟩ : key ≠ k ∧ key ∉ rest.map (·.1) := by simpa using absent
    rw [insertEntry]
    split
    · exact .refl _
    · exact ((ih later).cons (k, v)).trans (.swap (key, value) (k, v) rest)

theorem ofList_perm {l : List (String × α)} (distinct : (l.map (·.1)).Nodup) :
    (ofList l).entries.Perm l := by
  induction l using List.reverseRecOn with
  | nil => exact .refl _
  | append_singleton l e ih =>
    rw [List.map_append, List.nodup_append] at distinct
    obtain ⟨before, _, apart⟩ := distinct
    have held := ih before
    have absent : e.1 ∉ (ofList l).entries.map (·.1) := by
      intro member
      have earlier := (held.map (·.1)).mem_iff.1 member
      exact apart e.1 earlier e.1 (by simp) rfl
    rw [ofList, List.foldl_append, ← ofList]
    exact (insertEntry_perm absent).trans
      ((held.cons e).trans (List.perm_append_singleton e l).symm)

theorem get?_ofList {l : List (String × α)} (distinct : (l.map (·.1)).Nodup) (key : String) :
    (ofList l).get? key = l.lookup key :=
  lookup_of_perm (ofList_perm distinct) distinct key

theorem mem_of_mem_ofList {l : List (String × α)} {e : String × α}
    (member : e ∈ (ofList l).entries) : e ∈ l := by
  induction l using List.reverseRecOn with
  | nil => exact absurd member List.not_mem_nil
  | append_singleton l last ih =>
    rw [ofList, List.foldl_append, ← ofList] at member
    rcases mem_insertEntry member with rfl | before
    · exact List.mem_append_right _ (List.mem_singleton_self _)
    · exact List.mem_append_left _ (ih before)

theorem ofList_of_perm {l : List (String × α)} {t : Table α} (same : l.Perm t.entries) :
    ofList l = t := by
  have distinct : (l.map (·.1)).Nodup := (same.map Prod.fst).nodup_iff.2 t.keys_nodup
  have held : (ofList l).entries.Perm t.entries := (ofList_perm distinct).trans same
  apply ext
  refine held.eq_of_pairwise (fun a b _ _ less more => ?_) (ofList l).ordered t.ordered
  exact absurd (String.lt_trans less more) (String.lt_irrefl _)

end Table

end Stepwise
