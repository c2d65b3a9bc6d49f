import Stepwise.Json.Decode
import Stepwise.Proofs.Table
/-!
Objects whose members stand in another order. What a record holds under names that differ can be
read off in whatever order the members come; among the orders is that of the names, in which a value
read from a text has them.
-/

namespace Stepwise

namespace Json

mutual

def sorted : Json → Json
  | arr items => arr (sortedItems items)
  | obj members => obj (Table.ofList (sortedMembers members)).entries
  | j => j

def sortedItems : List Json → List Json
  | [] => []
  | j :: rest => sorted j :: sortedItems rest

def sortedMembers : List (String × Json) → List (String × Json)
  | [] => []
  | (name, j) :: rest => (name, sorted j) :: sortedMembers rest

end

theorem sortedItems_eq (items : List Json) : sortedItems items = items.map sorted := by
  induction items with
  | nil => rfl
  | cons j rest ih => rw [sortedItems, ih, List.map_cons]

theorem sortedMembers_eq (members : List (String × Json)) :
    sortedMembers members = members.map fun m => (m.1, sorted m.2) := by
  induction members with
  | nil => rfl
  | cons m rest ih => rw [sortedMembers, ih, List.map_cons]

/-- Writing values anew so that at most the order of members changes. -/
structure Arranges (f : Json → Json) : Prop where
  null : f null = null
  bool (b : Bool) : f (bool b) = bool b
  num (n : Number) : f (num n) = num n
  str (s : String) : f (str s) = str s
  arr (items : List Json) : f (arr items) = arr (items.map f)
  obj (members : List (String × Json)) (distinct : (members.map (·.1)).Nodup) :
    ∃ items, f (obj members) = obj items ∧ items.Perm (members.map fun m => (m.1, f m.2))

theorem arranges_id : Arranges id where
  null := rfl
  bool _ := rfl
  num _ := rfl
  str _ := rfl
  arr items := by simp
  obj members _ := ⟨members, rfl, by simp⟩

theorem arranges_sorted : Arranges sorted where
  null := rfl
  bool _ := rfl
  num _ := rfl
  str _ := rfl
  arr items := by rw [sorted, sortedItems_eq]
  obj members distinct := by
    refine ⟨_, by rw [sorted, sortedMembers_eq], Table.ofList_perm ?_⟩
    simpa [Function.comp_def] using distinct

theorem bind_eq_ok {read : Except DecodeError α} {next : α → Except DecodeError β} {b : β} :
    read >>= next = .ok b ↔ ∃ a, read = .ok a ∧ next a = .ok b := by
  cases read with
  | ok a => simp [bind, Except.bind]
  | error cause => simp [bind, Except.bind]

theorem except_map_eq_ok {read : Except DecodeError α} {g : α → β} {b : β} :
    read.map g = .ok b ↔ ∃ a, read = .ok a ∧ g a = b := by
  cases read with
  | ok a => simp [Except.map]
  | error cause => simp [Except.map]

theorem mapM_cons_ok {read : α → Except DecodeError β} {a : α} {rest : List α} {l : List β} :
    (a :: rest).mapM read = .ok l ↔
      ∃ b later, read a = .ok b ∧ rest.mapM read = .ok later ∧ b :: later = l := by
  simp [List.mapM_cons, bind_eq_ok, pure, Except.pure]

theorem mapM_perm {read : α → Except DecodeError β} {l m : List α} (perm : l.Perm m)
    {found : List β} (reads : m.mapM read = .ok found) :
    ∃ other, l.mapM read = .ok other ∧ other.Perm found := by
  induction perm generalizing found with
  | nil => exact ⟨found, reads, .refl _⟩
  | cons a _ ih =>
    obtain ⟨b, later, head, tail, rfl⟩ := mapM_cons_ok.1 reads
    obtain ⟨other, again, same⟩ := ih tail
    exact ⟨b :: other, mapM_cons_ok.2 ⟨b, other, head, again, rfl⟩, same.cons b⟩
  | swap a b rest =>
    obtain ⟨first, _, head, after, rfl⟩ := mapM_cons_ok.1 reads
    obtain ⟨second, later, next, tail, rfl⟩ := mapM_cons_ok.1 after
    have swapped := mapM_cons_ok.2 ⟨first, later, head, tail, rfl⟩
    exact ⟨second :: first :: later, mapM_cons_ok.2 ⟨second, _, next, swapped, rfl⟩, .swap ..⟩
  | trans _ _ first second =>
    obtain ⟨middle, readMiddle, same⟩ := second reads
    obtain ⟨other, again, same'⟩ := first readMiddle
    exact ⟨other, again, same'.trans same⟩

/-- The members of a record as they are found, beside those that were written. -/
structure Spelt (f : Json → Json) (items members : List (String × Json)) : Prop where
  perm : items.Perm (members.map fun m => (m.1, f m.2))
  distinct : (members.map (·.1)).Nodup

namespace Members

theorem locate_absent {name : String} {items : List (String × Json)}
    (absent : name ∉ items.map (·.1)) (place : Nat) : locate name place items = none := by
  induction items generalizing place with
  | nil => rfl
  | cons head rest ih =>
    obtain ⟨k, v⟩ := head
    obtain ⟨differ, later⟩ : name ≠ k ∧ name ∉ rest.map (·.1) := by simpa using absent
    rw [locate, if_neg (Ne.symm differ)]
    exact ih later (place + 1)

theorem locate_mem {name : String} {j : Json} {items : List (String × Json)}
    (distinct : (items.map (·.1)).Nodup) (member : (name, j) ∈ items) (place : Nat) :
    ∃ place', locate name place items = some (place', j, none) := by
  induction items generalizing place with
  | nil => simp at member
  | cons head rest ih =>
    obtain ⟨k, v⟩ := head
    obtain ⟨absent, tail⟩ := List.nodup_cons.1 distinct
    rw [locate]
    rcases List.mem_cons.1 member with same | later
    · obtain ⟨rfl, rfl⟩ := Prod.mk.inj same
      have once : rest.findIdx? (·.1 == name) = none := by
        refine List.findIdx?_eq_none_iff.2 fun m found => ?_
        have key : m.1 ∈ rest.map (·.1) := List.mem_map_of_mem found
        have differ : m.1 ≠ name := fun same => absent (same ▸ key)
        simpa using differ
      exact ⟨place, by simp [once]⟩
    · have key : name ∈ rest.map (·.1) := List.mem_map.2 ⟨(name, j), later, rfl⟩
      have differ : k ≠ name := fun same => absent (same ▸ key)
      rw [if_neg differ]
      exact ih tail later (place + 1)

end Members

namespace Spelt

variable {f : Json → Json} {items members : List (String × Json)} {absence : String → DecodeError}
  {positional : Bool} {value : Decoder α} {a : α}

theorem keys (spelt : Spelt f items members) : (items.map (·.1)).Perm (members.map (·.1)) := by
  simpa [Function.comp_def] using spelt.perm.map Prod.fst

theorem read (spelt : Spelt f items members) (name : String) {j : Json}
    (member : (name, j) ∈ members) (reads : value (f j) = .ok a) :
    Members.read ⟨items, absence, positional⟩ name value = .ok (some a) := by
  have distinct : (items.map (·.1)).Nodup := spelt.keys.nodup_iff.2 spelt.distinct
  have found : (name, f j) ∈ items :=
    spelt.perm.mem_iff.2 (List.mem_map.2 ⟨(name, j), member, rfl⟩)
  obtain ⟨place, located⟩ := Members.locate_mem distinct found 0
  simp [Members.read, located, reads]

theorem required (spelt : Spelt f items members) (name : String) {j : Json}
    (member : (name, j) ∈ members) (reads : value (f j) = .ok a) :
    Members.required ⟨items, absence, positional⟩ name value = .ok a := by
  rw [Members.required, spelt.read name member reads]

theorem optional (spelt : Spelt f items members) (name : String) {j : Json} {default : α}
    (member : (name, j) ∈ members) (reads : value (f j) = .ok a) :
    Members.optional ⟨items, absence, positional⟩ name value default = .ok a := by
  rw [Members.optional, spelt.read name member reads]
  rfl

theorem left_out (spelt : Spelt f items members) (name : String) {default : α}
    (absent : name ∉ members.map (·.1)) :
    Members.optional ⟨items, absence, positional⟩ name value default = .ok default := by
  have missing : name ∉ items.map (·.1) := fun found => absent (spelt.keys.mem_iff.1 found)
  simp [Members.optional, Members.read, Members.locate_absent missing]

theorem whereThere (spelt : Spelt f items members) (name : String) {write : α → Json}
    {o : Option α} (there : ∀ a ∈ o, (name, write a) ∈ members)
    (absent : o = none → name ∉ members.map (·.1))
    (reads : ∀ a ∈ o, Json.orNull value (f (write a)) = .ok (some a)) :
    Members.optional ⟨items, absence, positional⟩ name (Json.orNull value) none = .ok o := by
  cases o with
  | none => exact spelt.left_out name (absent rfl)
  | some a => exact spelt.optional name (there a rfl) (reads a rfl)

theorem filter (spelt : Spelt f items members) (keep : String → Bool) :
    Spelt f (items.filter fun m => keep m.1) (members.filter fun m => keep m.1) where
  perm := by simpa [List.filter_map, Function.comp_def] using spelt.perm.filter fun m => keep m.1
  distinct := spelt.distinct.sublist (List.filter_sublist.map _)

end Spelt

namespace Arranges

variable {f : Json → Json}

theorem spelt (arranges : Arranges f) (members : List (String × Json))
    (distinct : (members.map (·.1)).Nodup) :
    ∃ items, f (Json.obj members) = Json.obj items ∧ Spelt f items members := by
  obtain ⟨items, written, perm⟩ := arranges.obj members distinct
  exact ⟨items, written, perm, distinct⟩

theorem text (arranges : Arranges f) (s : String) : Json.text (f (Json.str s)) = .ok s := by
  rw [arranges.str]
  rfl

theorem unsigned (arranges : Arranges f) (wanted : String) (n : Nat) :
    Json.unsigned wanted (f (Json.nat n)) = .ok n := by
  rw [nat, arranges.num]
  rfl

theorem wide (arranges : Arranges f) (n : Nat) : Json.wide (f (Json.nat n)) = .ok n :=
  arranges.unsigned "u64" n

theorem size (arranges : Arranges f) (n : Nat) : Json.size (f (Json.nat n)) = .ok n :=
  arranges.unsigned "usize" n

theorem flag (arranges : Arranges f) (b : Bool) : Json.flag (f (Json.bool b)) = .ok b := by
  rw [arranges.bool]
  rfl

theorem choice (arranges : Arranges f) {names : List (String × α)} {insideStep : Bool}
    {name : String} {a : α} (known : names.lookup name = some a) :
    Json.choice names insideStep (f (Json.str name)) = .ok a := by
  simp [arranges.str, Json.choice, variant, known]

theorem listOf (arranges : Arranges f) {item : Decoder α} {write : β → Json} {g : β → α}
    {l : List β} (reads : ∀ x ∈ l, item (f (write x)) = .ok (g x)) :
    Json.listOf item (f (Json.arr (l.map write))) = .ok (l.map g) := by
  rw [arranges.arr, Json.listOf, List.map_map]
  induction l with
  | nil => rfl
  | cons x rest ih =>
    rw [List.map_cons, List.mapM_cons, Function.comp_apply, reads x List.mem_cons_self,
      ih fun y later => reads y (List.mem_cons_of_mem x later)]
    rfl

theorem texts (arranges : Arranges f) (l : List String) :
    Json.listOf Json.text (f (Json.texts l)) = .ok l := by
  simpa [Json.texts] using arranges.listOf (l := l) (g := id) fun s _ => arranges.text s

/-- What is written for a value that is there is taken for one only if no value is null. -/
theorem orNull (arranges : Arranges f) {value : Decoder α} {write : α → Json}
    (refuses : ∀ a, value Json.null ≠ .ok a) {o : Option α}
    (reads : ∀ a ∈ o, value (f (write a)) = .ok a) :
    Json.orNull value (f (ofOption write o)) = .ok o := by
  cases o with
  | none => rw [ofOption, arranges.null]; rfl
  | some a =>
    have read := reads a rfl
    have there : f (write a) ≠ Json.null := fun nothing => refuses a (nothing ▸ read)
    rw [ofOption, Json.orNull, read]
    · rfl
    · exact there

theorem textOrNull (arranges : Arranges f) (o : Option String) :
    Json.orNull Json.text (f (ofOption Json.str o)) = .ok o :=
  arranges.orNull (by simp [Json.text, wrong]) fun s _ => arranges.text s

theorem tableOf (arranges : Arranges f) {value : Decoder α} {write : α → Json} {t : Table α}
    (reads : ∀ e ∈ t.entries, value (f (write e.2)) = .ok e.2) :
    Json.tableOf value (f (Json.obj (t.entries.map fun e => (e.1, write e.2)))) = .ok t := by
  have keys : (t.entries.map fun e => (e.1, write e.2)).map (·.1) = t.keys := by
    simp [Table.keys, Function.comp_def]
  obtain ⟨items, written, perm⟩ := arranges.obj _ (keys ▸ t.keys_nodup)
  have each : ((t.entries.map fun e => (e.1, write e.2)).map fun m => (m.1, f m.2)).mapM
      (fun m => (value m.2).map fun a => (m.1, a)) = .ok t.entries := by
    generalize t.entries = entries at reads
    induction entries with
    | nil => rfl
    | cons e rest ih =>
      have head := reads e List.mem_cons_self
      have tail := ih fun e later => reads e (List.mem_cons_of_mem _ later)
      exact mapM_cons_ok.2 ⟨e, rest, by simp [head, Except.map], tail, rfl⟩
  obtain ⟨found, read, same⟩ := mapM_perm perm each
  rw [written, Json.tableOf, read]
  exact congrArg Except.ok (Table.ofList_of_perm same)

theorem freeTable (arranges : Arranges f) (t : Table Json) :
    Json.freeTable (f (Json.obj t.entries)) = .ok (t.map f) := by
  obtain ⟨items, written, perm⟩ := arranges.obj t.entries t.keys_nodup
  rw [written, Json.freeTable, Table.ofList_of_perm (t := t.map f) perm]

end Arranges

section Tagged

variable {f : Json → Json} {items members : List (String × Json)} {tag name : String} {a : α}

theorem Spelt.splitMembers (spelt : Spelt f items ((tag, .str name) :: members))
    (arranges : Arranges f) (names : List (String × α)) (insideStep : Bool)
    (known : names.lookup name = some a) :
    ∃ rest, Json.splitMembers tag names insideStep items = .ok (a, .members rest) ∧
      Spelt f rest members := by
  have reads : tagged names insideStep (f (.str name)) = .ok a := by
    simp [arranges.str, tagged, variant, known]
  obtain ⟨absent, _⟩ := List.nodup_cons.1 spelt.distinct
  have others : members.filter (fun m => m.1 != tag) = members := by
    refine List.filter_eq_self.2 fun m member => ?_
    have key : m.1 ∈ members.map (·.1) := List.mem_map_of_mem member
    have differ : m.1 ≠ tag := fun same => absent (same ▸ key)
    simpa using differ
  have rest := spelt.filter (· != tag)
  rw [List.filter_cons_of_neg (by simp), others] at rest
  refine ⟨_, ?_, rest⟩
  rw [Json.splitMembers, fromMembers, spelt.required tag (List.mem_cons_self ..) reads]
  rfl

theorem Arranges.splitTagged (arranges : Arranges f) (kind : String)
    (names : List (String × α)) (insideStep : Bool) (known : names.lookup name = some a)
    (distinct : (((tag, Json.str name) :: members).map (·.1)).Nodup) :
    ∃ rest, Json.splitTagged kind tag names insideStep
        (f (.obj ((tag, .str name) :: members))) = .ok (a, .members rest) ∧
      Spelt f rest members := by
  obtain ⟨items, written, spelt⟩ := arranges.spelt _ distinct
  rw [written]
  exact spelt.splitMembers arranges names insideStep known

end Tagged

end Json

end Stepwise
