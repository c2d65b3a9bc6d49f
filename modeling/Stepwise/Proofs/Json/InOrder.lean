import Stepwise.Json.Reader
import Stepwise.Proofs.Json.Arrangement
/-!
Values whose objects list their members in the order of their names: every value that a text spells,
and with it whatever a decoder takes out of such a value unread. More generally, what holds of a
value and of all that it holds is passed on to what is made of it (`Yields`).
-/

namespace Stepwise

namespace Json

/-- At every depth, members stand in the order of their names, each name once. -/
def InOrder (j : Json) : Prop := j.sorted = j

theorem map_eq_self_iff {g : α → α} {l : List α} : l.map g = l ↔ ∀ a ∈ l, g a = a := by
  simpa using List.map_inj_left (l := l) (f := g) (g := id)

theorem inOrder_arr {items : List Json} : (arr items).InOrder ↔ ∀ j ∈ items, j.InOrder := by
  rw [InOrder, sorted, sortedItems_eq, arr.injEq]
  exact map_eq_self_iff

theorem inOrder_obj {members : List (String × Json)} :
    (obj members).InOrder ↔
      members.Pairwise (fun a b => a.1 < b.1) ∧ ∀ m ∈ members, m.2.InOrder := by
  rw [InOrder, sorted, sortedMembers_eq, obj.injEq]
  have each : (members.map fun m => (m.1, sorted m.2)) = members ↔
      ∀ m ∈ members, m.2.InOrder := by
    rw [map_eq_self_iff]
    simp [InOrder, Prod.ext_iff]
  constructor
  · intro same
    have ordered : members.Pairwise fun a b => a.1 < b.1 := same ▸ Table.ordered _
    have held := Table.ofList_entries ⟨members.map fun m => (m.1, sorted m.2),
      List.pairwise_map.2 ordered⟩
    exact ⟨ordered, each.1 ((congrArg Table.entries held).symm.trans same)⟩
  · rintro ⟨ordered, inOrder⟩
    rw [each.2 inOrder]
    exact congrArg Table.entries (Table.ofList_entries ⟨members, ordered⟩)

theorem inOrder_named {members : List (String × Json)} (names : List String)
    (named : members.map (·.1) = names) (ordered : names.Pairwise (· < ·))
    (each : ∀ m ∈ members, m.2.InOrder) : (obj members).InOrder :=
  inOrder_obj.2 ⟨List.pairwise_map.1 (named ▸ ordered), each⟩

mutual

theorem inOrder_sorted : (j : Json) → j.sorted.InOrder
  | .null => rfl
  | .bool _ => rfl
  | .num _ => rfl
  | .str _ => rfl
  | .arr items => inOrder_arr.2 (inOrder_sortedItems items)
  | .obj members => inOrder_obj.2 ⟨Table.ordered _, fun m member =>
      inOrder_sortedMembers members m (Table.mem_of_mem_ofList member)⟩

theorem inOrder_sortedItems : (items : List Json) → ∀ j ∈ sortedItems items, j.InOrder
  | [] => by simp [sortedItems]
  | j :: rest => by
    simpa [sortedItems] using ⟨inOrder_sorted j, inOrder_sortedItems rest⟩

theorem inOrder_sortedMembers :
    (members : List (String × Json)) → ∀ m ∈ sortedMembers members, m.2.InOrder
  | [] => by simp [sortedMembers]
  | (name, j) :: rest => by
    intro m member
    rcases List.mem_cons.1 member with rfl | after
    · exact inOrder_sorted j
    · exact inOrder_sortedMembers rest m after

end

mutual

/-- A value made of what a text says has its members in order, however the text has them. -/
theorem inOrder_of_value? {room : Nat} {j : Json} :
    (t : Tree) → t.value? room = some j → j.InOrder
  | .null, read => by cases read; rfl
  | .bool b, read => by cases read; rfl
  | .num n, read => by
    obtain ⟨value, _, rfl⟩ := Option.map_eq_some_iff.1 read
    rfl
  | .str s, read => by
    obtain ⟨value, _, rfl⟩ := Option.map_eq_some_iff.1 read
    rfl
  | .arr items, read => by
    cases room with
    | zero => exact nomatch read
    | succ room =>
      obtain ⟨values, found, rfl⟩ := Option.map_eq_some_iff.1 read
      exact inOrder_arr.2 (inOrder_of_values? items found)
  | .obj members, read => by
    cases room with
    | zero => exact nomatch read
    | succ room =>
      obtain ⟨values, found, rfl⟩ := Option.map_eq_some_iff.1 read
      refine inOrder_obj.2 ⟨(Table.ofList values).ordered, fun m member => ?_⟩
      exact inOrder_of_memberValues? members found m (Table.mem_of_mem_ofList member)

theorem inOrder_of_values? {room : Nat} {values : List Json} :
    (items : List Tree) → Tree.values? room items = some values → ∀ j ∈ values, j.InOrder
  | [], read => by cases read; simp
  | t :: rest, read => by
    simp only [Tree.values?, Option.bind_eq_bind, Option.bind_eq_some_iff] at read
    obtain ⟨first, foundFirst, later, foundLater, same⟩ := read
    cases same
    simpa using ⟨inOrder_of_value? t foundFirst, inOrder_of_values? rest foundLater⟩

theorem inOrder_of_memberValues? {room : Nat} {values : List (String × Json)} :
    (members : List (Option String × Tree)) → Tree.memberValues? room members = some values →
      ∀ m ∈ values, m.2.InOrder
  | [], read => by cases read; simp
  | (name, t) :: rest, read => by
    simp only [Tree.memberValues?, Option.bind_eq_bind, Option.bind_eq_some_iff] at read
    obtain ⟨key, _, first, foundFirst, later, foundLater, same⟩ := read
    cases same
    intro m member
    rcases List.mem_cons.1 member with rfl | after
    · exact inOrder_of_value? t foundFirst
    · exact inOrder_of_memberValues? rest foundLater m after

end

theorem inOrder_of_text {s : String} {j : Json} (read : ofText? s = some j) : j.InOrder := by
  obtain ⟨t, _, value⟩ := Option.bind_eq_some_iff.1 read
  exact inOrder_of_value? t value

namespace Piece

theorem map_eq_ok {g : α → β} {piece : Piece α} {b : β} :
    g <$> piece = ok b ↔ ∃ a, piece = ok a ∧ g a = b := by
  change ((ok g).seq piece : Piece β) = ok b ↔ _
  cases piece with
  | ok a => simp [seq]
  | fault place cause => simp [seq]

theorem seq_eq_ok {g : Piece (α → β)} {piece : Piece α} {b : β} :
    g <*> piece = ok b ↔ ∃ h a, g = ok h ∧ piece = ok a ∧ h a = b := by
  change g.seq piece = ok b ↔ _
  cases g with
  | ok h =>
    cases piece with
    | ok a => simp [seq]
    | fault place cause => simp [seq]
  | fault place cause =>
    cases piece with
    | ok a => simp [seq]
    | fault place' cause' =>
      simp only [seq, reduceCtorEq, false_and]
      split
      · simp
      · simp

theorem toExcept_eq_ok {piece : Piece α} {a : α} : piece.toExcept = .ok a ↔ piece = ok a := by
  cases piece with
  | ok b => simp [toExcept]
  | fault place cause => simp [toExcept]

end Piece

theorem splitMembers_ok {tag : String} {names : List (String × α)} {insideStep : Bool}
    {items : List (String × Json)} {a : α} {body : Body}
    (split : splitMembers tag names insideStep items = .ok (a, body)) :
    body = .members (items.filter fun m => m.1 != tag) := by
  obtain ⟨b, _, same⟩ := bind_eq_ok.1 split
  cases same
  rfl

theorem Members.mem_of_locate {name : String} {items : List (String × Json)} {place : Nat}
    {found : Nat × Json × Option Nat} (located : locate name place items = some found) :
    (name, found.2.1) ∈ items := by
  induction items generalizing place with
  | nil => exact nomatch located
  | cons head rest ih =>
    obtain ⟨k, v⟩ := head
    rw [locate] at located
    split at located
    · next same =>
      cases located
      simp [same]
    · exact List.mem_cons_of_mem _ (ih located)

structure Inherited (Q : Json → Prop) : Prop where
  item {items : List Json} : Q (arr items) → ∀ j ∈ items, Q j
  member {members : List (String × Json)} : Q (obj members) → ∀ m ∈ members, Q m.2

theorem inherited_inOrder : Inherited InOrder where
  item inOrder := inOrder_arr.1 inOrder
  member inOrder := (inOrder_obj.1 inOrder).2

theorem inherited_id : Inherited fun j => id j = j where
  item _ _ _ := rfl
  member _ _ _ := rfl

/-- What holds of everything that a decoder makes of a value of some sort. -/
def Yields (Q : Json → Prop) (value : Decoder α) (P : α → Prop) : Prop :=
  ∀ j a, Q j → value j = .ok a → P a

def Members.Hold (m : Members) (Q : Json → Prop) : Prop := ∀ e ∈ m.items, Q e.2

namespace Yields

variable {Q : Json → Prop} {value : Decoder α} {P : α → Prop} {m : Members} {name : String} {a : α}

theorem of_mapM {read : β → Except DecodeError α} {l : List β} {found : List α}
    (reads : l.mapM read = .ok found) : ∀ a ∈ found, ∃ b ∈ l, read b = .ok a := by
  induction l generalizing found with
  | nil => cases reads; simp
  | cons b rest ih =>
    obtain ⟨first, later, head, tail, rfl⟩ := mapM_cons_ok.1 reads
    intro a member
    rcases List.mem_cons.1 member with rfl | after
    · exact ⟨b, List.mem_cons_self, head⟩
    · obtain ⟨c, found, same⟩ := ih tail a after
      exact ⟨c, List.mem_cons_of_mem b found, same⟩

theorem listOf (inherited : Inherited Q) (yields : Yields Q value P) :
    Yields Q (Json.listOf value) fun l => ∀ a ∈ l, P a := by
  intro j l held read
  cases j with
  | arr items =>
    intro a member
    obtain ⟨item, among, same⟩ := of_mapM read a member
    exact yields item a (inherited.item held item among) same
  | _ => cases read

theorem tableOf (inherited : Inherited Q) (yields : Yields Q value P) :
    Yields Q (Json.tableOf value) fun t => ∀ e ∈ t.entries, P e.2 := by
  intro j t held read
  cases j with
  | obj members =>
    obtain ⟨found, reads, same⟩ := bind_eq_ok.1 read
    cases same
    intro e member
    obtain ⟨m, among, given⟩ := of_mapM reads e (Table.mem_of_mem_ofList member)
    obtain ⟨a, read, rfl⟩ := except_map_eq_ok.1 given
    exact yields m.2 a (inherited.member held m among) read
  | _ => cases read

theorem freeTable (inherited : Inherited Q) :
    Yields Q Json.freeTable fun t => ∀ e ∈ t.entries, Q e.2 := by
  intro j t held read
  cases j with
  | obj members =>
    cases read
    exact fun e among => inherited.member held e (Table.mem_of_mem_ofList among)
  | _ => cases read

theorem orNull (yields : Yields Q value P) :
    Yields Q (Json.orNull value) fun o => ∀ a ∈ o, P a := by
  intro j o held read a there
  unfold Json.orNull at read
  split at read
  · cases read
    cases there
  · obtain ⟨b, given, rfl⟩ := except_map_eq_ok.1 read
    cases there
    exact yields j a held given

theorem freeOrNull : Yields Q (Json.orNull Json.free) fun o => ∀ j ∈ o, j ≠ .null ∧ Q j := by
  intro j o held read a there
  unfold Json.orNull at read
  split at read
  · cases read
    cases there
  · next something =>
    cases read
    cases there
    exact ⟨something, held⟩

theorem read (yields : Yields Q value P) (held : m.Hold Q)
    (found : m.read name value = .ok (some a)) : P a := by
  unfold Members.read at found
  split at found
  · exact nomatch found
  · next place j again located =>
    have member : (name, j) ∈ m.items := Members.mem_of_locate located
    split at found
    · exact nomatch found
    · exact nomatch found
    · next read =>
      cases found
      exact yields j a (held (name, j) member) read

theorem required (yields : Yields Q value P) (held : m.Hold Q)
    (found : m.required name value = .ok a) : P a := by
  unfold Members.required at found
  split at found
  · next read =>
    cases found
    exact yields.read held read
  · exact nomatch found
  · exact nomatch found

theorem optional (yields : Yields Q value P) {default : α} (fallback : P default)
    (held : m.Hold Q) (found : m.optional name value default = .ok a) : P a := by
  obtain ⟨read, given, rfl⟩ := Piece.map_eq_ok.1 found
  cases read with
  | none => exact fallback
  | some a => exact yields.read held given

theorem nullable {P : Option α → Prop} (yields : Yields Q (Json.orNull value) P) (fallback : P none)
    (held : m.Hold Q) {o : Option α} (found : m.nullable name value = .ok o) : P o := by
  unfold Members.nullable at found
  split at found
  · exact yields.required held found
  · exact yields.optional fallback held found

theorem record (inherited : Inherited Q) {kind : String} {fields : List String}
    {surplus : Surplus} {build : Members → Piece α}
    (builds : ∀ m, m.Hold Q → ∀ a, build m = .ok a → P a) :
    Yields Q (Json.record kind fields surplus build) P := by
  intro j a held read
  cases j with
  | obj members =>
    exact builds ⟨members, _, _⟩ (inherited.member held) a (Piece.toExcept_eq_ok.1 read)
  | arr items =>
    have each : ∀ e ∈ fields.zip items, Q e.2 := fun e member =>
      inherited.item held e.2 (List.of_mem_zip member).2
    obtain ⟨b, built, kept⟩ := bind_eq_ok.1 read
    split at kept
    · exact nomatch kept
    · cases kept
      exact builds ⟨fields.zip items, _, _⟩ each a (Piece.toExcept_eq_ok.1 built)
  | _ => cases read

end Yields

def Makes (value : Decoder α) (P : α → Prop) : Prop :=
  ∀ j a, j.InOrder → value j = .ok a → P a

def Members.InOrder (m : Members) : Prop := ∀ e ∈ m.items, e.2.InOrder

namespace Makes

variable {value : Decoder α} {P : α → Prop} {m : Members} {name : String} {a : α}

theorem freeTable : Makes Json.freeTable fun t => t.map sorted = t := by
  intro j t inOrder read
  cases j with
  | obj members =>
    obtain ⟨ordered, each⟩ := inOrder_obj.1 inOrder
    cases read
    apply Table.ext
    refine map_eq_self_iff.2 fun e member => ?_
    have same : sorted e.2 = e.2 := each e (Table.mem_of_mem_ofList member)
    rw [same]
  | _ => cases read

theorem listOf (makes : Makes value P) : Makes (Json.listOf value) fun l => ∀ a ∈ l, P a :=
  Yields.listOf inherited_inOrder makes

theorem required (makes : Makes value P) (inOrder : m.InOrder)
    (found : m.required name value = .ok a) : P a :=
  Yields.required makes inOrder found

theorem optional (makes : Makes value P) {default : α} (fallback : P default)
    (inOrder : m.InOrder) (found : m.optional name value default = .ok a) : P a :=
  Yields.optional makes fallback inOrder found

theorem record {kind : String} {fields : List String} {surplus : Surplus}
    {build : Members → Piece α} (builds : ∀ m, m.InOrder → ∀ a, build m = .ok a → P a) :
    Makes (Json.record kind fields surplus build) P :=
  Yields.record inherited_inOrder builds

end Makes

end Json

end Stepwise
