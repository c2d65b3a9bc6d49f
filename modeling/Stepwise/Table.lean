/-!
Finite maps keyed by names. A table is the list of its entries in strictly increasing order of
key, so equal tables are equal lists: two tables that answer every look-up alike are the same
table (`Table.ext_get?`).
-/

namespace Stepwise

def insertEntry (key : String) (value : α) : List (String × α) → List (String × α)
  | [] => [(key, value)]
  | (k, v) :: rest =>
    if key < k then (key, value) :: (k, v) :: rest
    else if key = k then (key, value) :: rest
    else (k, v) :: insertEntry key value rest

theorem mem_insertEntry {key : String} {value : α} {e : String × α} {l : List (String × α)} :
    e ∈ insertEntry key value l → e = (key, value) ∨ e ∈ l := by
  induction l with
  | nil => simp [insertEntry]
  | cons head rest ih =>
    rw [insertEntry]
    split
    · simp
    · split
      · simp only [List.mem_cons]
        rintro (h | h)
        · exact .inl h
        · exact .inr (.inr h)
      · simp only [List.mem_cons]
        rintro (h | h)
        · exact .inr (.inl h)
        · exact (ih h).imp_right .inr

theorem ordered_insertEntry (key : String) (value : α) {l : List (String × α)}
    (ordered : l.Pairwise fun a b => a.1 < b.1) :
    (insertEntry key value l).Pairwise fun a b => a.1 < b.1 := by
  induction l with
  | nil => simp [insertEntry]
  | cons head rest ih =>
    obtain ⟨above, tail⟩ := List.pairwise_cons.1 ordered
    rw [insertEntry]
    split
    · next below =>
      refine List.pairwise_cons.2 ⟨fun e member => ?_, ordered⟩
      rcases List.mem_cons.1 member with rfl | later
      · exact below
      · exact String.lt_trans below (above e later)
    · split
      · next same => exact List.pairwise_cons.2 ⟨fun e later => same ▸ above e later, tail⟩
      · next notBelow other =>
        refine List.pairwise_cons.2 ⟨fun e member => ?_, ih tail⟩
        rcases mem_insertEntry member with rfl | later
        · exact Std.not_le.1 fun le => other (Std.le_antisymm le (Std.not_lt.1 notBelow))
        · exact above e later

structure Table (α : Type u) where
  entries : List (String × α)
  ordered : entries.Pairwise fun a b => a.1 < b.1

namespace Table

def empty : Table α := ⟨[], .nil⟩

instance : EmptyCollection (Table α) := ⟨empty⟩

instance : Inhabited (Table α) := ⟨empty⟩

theorem ext {s t : Table α} (same : s.entries = t.entries) : s = t := by
  cases s; cases t; cases same; rfl

instance [DecidableEq α] : DecidableEq (Table α) := fun s t =>
  decidable_of_iff (s.entries = t.entries) ⟨ext, fun h => h ▸ rfl⟩

def get? (t : Table α) (key : String) : Option α := t.entries.lookup key

def contains (t : Table α) (key : String) : Bool := (t.get? key).isSome

def keys (t : Table α) : List String := t.entries.map (·.1)

def size (t : Table α) : Nat := t.entries.length

def insert (t : Table α) (key : String) (value : α) : Table α :=
  ⟨insertEntry key value t.entries, ordered_insertEntry key value t.ordered⟩

def erase (t : Table α) (key : String) : Table α :=
  ⟨t.entries.filter (·.1 != key), t.ordered.filter _⟩

def filter (t : Table α) (keep : String → α → Bool) : Table α :=
  ⟨t.entries.filter fun e => keep e.1 e.2, t.ordered.filter _⟩

def map (f : α → β) (t : Table α) : Table β :=
  ⟨t.entries.map fun e => (e.1, f e.2), List.pairwise_map.2 t.ordered⟩

/-- The table that holds, for each name, the last value the list gives it. -/
def ofList (l : List (String × α)) : Table α :=
  l.foldl (fun t e => t.insert e.1 e.2) empty

theorem lookup_entry (key other : String) (value : α) (l : List (String × α)) :
    ((key, value) :: l).lookup other = if other = key then some value else l.lookup other := by
  by_cases h : other = key
  · simp [h]
  · have differ : (other == key) = false := by simpa using h
    simp [List.lookup_cons, h, differ]

@[simp] theorem get?_empty (key : String) : (empty : Table α).get? key = none := rfl

theorem lookup_insertEntry (key other : String) (value : α) (l : List (String × α)) :
    (insertEntry key value l).lookup other =
      if other = key then some value else l.lookup other := by
  induction l with
  | nil => simp [insertEntry, lookup_entry]
  | cons head rest ih =>
    obtain ⟨k, v⟩ := head
    rw [insertEntry]
    split
    · simp [lookup_entry]
    · split
      · next same => subst same; by_cases h : other = key <;> simp [lookup_entry, h]
      · next differ =>
        by_cases h : other = key
        · subst h; simp [lookup_entry, differ, ih]
        · simp [lookup_entry, ih, h]

theorem get?_insert (t : Table α) (key other : String) (value : α) :
    (t.insert key value).get? other = if other = key then some value else t.get? other :=
  lookup_insertEntry key other value t.entries

theorem entries_eq_of_lookup {l m : List (String × α)}
    (ordered : l.Pairwise fun a b => a.1 < b.1) (ordered' : m.Pairwise fun a b => a.1 < b.1)
    (same : ∀ key, l.lookup key = m.lookup key) : l = m := by
  induction l generalizing m with
  | nil =>
    cases m with
    | nil => rfl
    | cons head rest =>
      obtain ⟨k, v⟩ := head
      simpa [lookup_entry] using same k
  | cons head rest ih =>
    obtain ⟨k, v⟩ := head
    cases m with
    | nil => simpa [lookup_entry] using same k
    | cons head' rest' =>
      obtain ⟨k', v'⟩ := head'
      obtain ⟨above, tail⟩ := List.pairwise_cons.1 ordered
      obtain ⟨above', tail'⟩ := List.pairwise_cons.1 ordered'
      have absent {key : String} {n : List (String × α)} (h : ∀ e ∈ n, key < e.1) :
          n.lookup key = none := by
        induction n with
        | nil => rfl
        | cons e n ihn =>
          have less := h e (by simp)
          have ne : key ≠ e.1 := fun eq => absurd (eq ▸ less) (String.lt_irrefl _)
          obtain ⟨ek, ev⟩ := e
          simpa [lookup_entry, ne] using ihn fun e' m => h e' (by simp [m])
      have below {a : String} {n : List (String × α)} {e : String × α} {c : String}
          (h : ∀ e' ∈ n, e.1 < e'.1) (less : a < e.1) (eq : c = a) : (e :: n).lookup c = none := by
        subst eq
        refine absent fun e' m => ?_
        rcases List.mem_cons.1 m with rfl | later
        · exact less
        · exact String.lt_trans less (h e' later)
      have keys_eq : k = k' := by
        rcases Std.lt_trichotomy k k' with less | eq | less
        · have := same k
          rw [below (e := (k', v')) above' less rfl] at this
          simp at this
        · exact eq
        · have := same k'
          rw [below (e := (k, v)) above less rfl] at this
          simp at this
      subst keys_eq
      have values_eq : v = v' := by simpa [lookup_entry] using same k
      subst values_eq
      congr 1
      refine ih tail tail' fun key => ?_
      by_cases h : key = k
      · subst h; rw [absent above, absent above']
      · simpa [lookup_entry, h] using same key

theorem ext_get? {s t : Table α} (same : ∀ key, s.get? key = t.get? key) : s = t :=
  ext (entries_eq_of_lookup s.ordered t.ordered same)

theorem insertEntry_append {l : List (String × α)} {key : String} {value : α}
    (above : ∀ e ∈ l, e.1 < key) : insertEntry key value l = l ++ [(key, value)] := by
  induction l with
  | nil => rfl
  | cons head rest ih =>
    have less := above head (by simp)
    rw [insertEntry, if_neg (String.lt_asymm less),
      if_neg (fun eq => absurd (eq ▸ less) (String.lt_irrefl _)),
      ih fun e m => above e (by simp [m])]
    rfl

theorem entries_foldl_insert {l : List (String × α)} {t : Table α}
    (ordered : (t.entries ++ l).Pairwise fun a b => a.1 < b.1) :
    (l.foldl (fun t e => t.insert e.1 e.2) t).entries = t.entries ++ l := by
  induction l generalizing t with
  | nil => simp
  | cons e rest ih =>
    have above : ∀ e' ∈ t.entries, e'.1 < e.1 := fun e' m =>
      (List.pairwise_append.1 ordered).2.2 e' m e (by simp)
    have step : (t.insert e.1 e.2).entries = t.entries ++ [e] := insertEntry_append above
    rw [List.foldl_cons, ih (by rw [step]; simpa using ordered), step]
    simp

@[simp] theorem ofList_entries (t : Table α) : ofList t.entries = t :=
  ext (by
    simpa [ofList, empty] using
      entries_foldl_insert (t := empty) (by simpa [empty] using t.ordered))

end Table

abbrev Names := Table Unit

namespace Names

def insert (s : Names) (name : String) : Names := Table.insert s name ()

def ofNames (names : List String) : Names := names.foldl insert Table.empty

theorem contains_insert (s : Names) (name other : String) :
    (Names.insert s name).contains other = (other == name || Table.contains s other) := by
  by_cases h : other = name <;> simp [Names.insert, Table.contains, Table.get?_insert, h]

end Names

end Stepwise
