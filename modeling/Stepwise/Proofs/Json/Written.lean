import Stepwise.Proofs.Json.InOrder
import Stepwise.Proofs.Json.Numeral
/-!
Values written without spaces. The text of a value says what the value is (`ofChars?_compactChars`),
and what a text spells can be written in a text that spells a value again, one of the same kind
(`HeldIn.value?_tree`).
-/

namespace Stepwise

namespace Json

/-! Strings. -/

theorem hex4?_hexDigit :
    ∀ n < 32, hex4? '0' '0' (hexDigit (n / 16)) (hexDigit (n % 16)) = some n := by decide

theorem readString_simple {c e : Char} (simple : simpleEscape? c = some e) (done rest : List Char) :
    readString true done ('\\' :: c :: rest) = readString true (e :: done) rest := by
  have other : c ≠ 'u' := by
    rintro rfl
    exact nomatch simple
  rw [readString, simple]
  rintro _ _ _ _ _ same
  exact absurd same other

theorem readString_plain {c : Char} (quote : c ≠ '"') (backslash : c ≠ '\\')
    (printed : ¬c.toNat < 0x20) (done rest : List Char) :
    readString true done (c :: rest) = readString true (c :: done) rest := by
  rw [readString, if_neg printed]
  · exact quote
  · rintro _ _ _ _ _ same
    exact absurd same backslash
  · rintro _ _ same
    exact absurd same backslash

theorem readString_escape (c : Char) (done rest : List Char) :
    readString true done (escape c ++ rest) = readString true (c :: done) rest := by
  unfold escape
  split_ifs with quote backslash newline carriage tab backspace feed control
  · exact readString_simple (by rw [quote]; rfl) done rest
  · exact readString_simple (by rw [backslash]; rfl) done rest
  · exact readString_simple (by rw [newline]; rfl) done rest
  · exact readString_simple (by rw [carriage]; rfl) done rest
  · exact readString_simple (by rw [tab]; rfl) done rest
  · exact readString_simple (by rw [backspace]; rfl) done rest
  · exact readString_simple (by rw [feed]; rfl) done rest
  · simp only [List.cons_append, List.nil_append]
    rw [readString, hex4?_hexDigit _ control]
    dsimp only
    rw [if_neg (by omega), if_neg (by omega), Char.ofNat_toNat]
  · exact readString_plain quote backslash control done rest

theorem readString_quoted (cs done rest : List Char) :
    readString true done (cs.flatMap escape ++ '"' :: rest) =
      some (some (String.ofList (done.reverse ++ cs)), rest) := by
  induction cs generalizing done with
  | nil =>
    rw [List.flatMap_nil, List.nil_append, readString, List.append_nil]
    rfl
  | cons c cs ih =>
    rw [List.flatMap_cons, List.append_assoc, readString_escape, ih, List.reverse_cons,
      List.append_assoc, List.singleton_append]

/-! Trees. -/

mutual

/-- What the text of a value says. -/
def tree : Json → Tree
  | null => .null
  | bool b => .bool b
  | num n => .num n.numeral
  | str s => .str (some s)
  | arr items => .arr (trees items)
  | obj members => .obj (memberTrees members)

def trees : List Json → List Tree
  | [] => []
  | j :: rest => tree j :: trees rest

def memberTrees : List (String × Json) → List (Option String × Tree)
  | [] => []
  | (name, j) :: rest => (some name, tree j) :: memberTrees rest

end

theorem ne_of_isDigit {c d : Char} (digit : c.isDigit = true) (other : d.isDigit = false) :
    c ≠ d := by
  rintro rfl
  exact absurd digit (by simp [other])

theorem Numeral.Grammatical.front {n : Numeral} (grammatical : n.Grammatical) :
    ∃ c rest, n.chars = c :: rest ∧ (c = '-' ∨ c.isDigit = true) := by
  obtain ⟨c, rest, text, digit⟩ := grammatical.head
  cases negative : n.negative with
  | true => exact ⟨'-', n.magnitude, by simp [chars, signPart, negative], .inl rfl⟩
  | false => exact ⟨c, rest, by simp [chars, signPart, negative, text], .inr digit⟩

theorem compactChars_front (j : Json) :
    ∃ c rest, j.compactChars = c :: rest ∧ isSpace c = false ∧ c ≠ ']' := by
  cases j with
  | null => exact ⟨_, _, rfl, rfl, by decide⟩
  | bool b =>
    cases b with
    | true => exact ⟨_, _, rfl, rfl, by decide⟩
    | false => exact ⟨_, _, rfl, rfl, by decide⟩
  | num n =>
    obtain ⟨c, rest, text, front⟩ := n.numeral_grammatical.front
    refine ⟨c, rest, by rw [compactChars, ← n.numeral_chars, text], ?_⟩
    rcases front with rfl | digit
    · decide
    · have other {d : Char} (mark : d.isDigit = false) : c ≠ d := ne_of_isDigit digit mark
      simp [isSpace, other]
  | str s => exact ⟨_, _, rfl, rfl, by decide⟩
  | arr items => exact ⟨_, _, by rw [compactChars], rfl, by decide⟩
  | obj members => exact ⟨_, _, by rw [compactChars], rfl, by decide⟩

theorem skipSpace_of_head {c : Char} (mark : isSpace c = false) (rest : List Char) :
    skipSpace (c :: rest) = c :: rest := by
  rw [skipSpace, List.dropWhile_cons, mark, if_neg Bool.false_ne_true]

theorem skipSpace_compactChars (j : Json) (rest : List Char) :
    skipSpace (j.compactChars ++ rest) = j.compactChars ++ rest := by
  obtain ⟨c, more, text, mark, -⟩ := j.compactChars_front
  rw [text, List.cons_append, skipSpace_of_head mark]

theorem fuel_of_front {j : Json} {fuel : Nat} (enough : j.compactChars.length ≤ fuel) :
    ∃ less, fuel = less + 1 := by
  obtain ⟨c, more, text, -⟩ := j.compactChars_front
  rw [text, List.length_cons] at enough
  exact Nat.exists_eq_succ_of_ne_zero (by omega)

theorem readTree_numeral {n : Numeral} (grammatical : n.Grammatical) (fuel : Nat)
    {rest : List Char} (ends : Ends rest) :
    readTree (fuel + 1) (n.chars ++ rest) = some (.num n, rest) := by
  obtain ⟨c, more, text, front⟩ := grammatical.front
  have read := Numeral.readNumeral_chars grammatical ends
  rw [text, List.cons_append] at read ⊢
  have other {d : Char} (mark : d.isDigit = false) (minus : d ≠ '-') : c ≠ d := by
    rcases front with rfl | digit
    · exact minus.symm
    · exact ne_of_isDigit digit mark
  unfold readTree
  split
  · next same => exact absurd (List.cons.inj same).1 (other rfl (by decide))
  · next same => exact absurd (List.cons.inj same).1 (other rfl (by decide))
  · next same => exact absurd (List.cons.inj same).1 (other rfl (by decide))
  · next same => exact absurd (List.cons.inj same).1 (other rfl (by decide))
  · next same => exact absurd (List.cons.inj same).1 (other rfl (by decide))
  · next same => exact absurd (List.cons.inj same).1 (other rfl (by decide))
  · rw [read]
    rfl

theorem ends_mark {c : Char} (mark : c.isDigit = false ∧ c ≠ '.' ∧ c ≠ 'e' ∧ c ≠ 'E')
    (rest : List Char) : Ends (c :: rest) := by
  rintro d ⟨⟩
  exact mark

theorem quoted_append (s : String) (rest : List Char) :
    quoted s ++ rest = '"' :: (s.toList.flatMap escape ++ '"' :: rest) := by
  rw [quoted, List.append_assoc, List.cons_append, List.singleton_append]

theorem readString_string (s : String) (rest : List Char) :
    readString true [] (s.toList.flatMap escape ++ '"' :: rest) = some (some s, rest) := by
  rw [readString_quoted, List.reverse_nil, List.nil_append, String.ofList_toList]

theorem readMembers_quoted (fuel : Nat) (done : List (Option String × Tree)) (name : String)
    (more : List Char) : readMembers (fuel + 1) done (quoted name ++ ':' :: more) =
      match readTree fuel (skipSpace more) with
      | none => none
      | some (value, rest) =>
        match skipSpace rest with
        | ',' :: rest => readMembers fuel ((some name, value) :: done) (skipSpace rest)
        | '\x7d' :: rest => some (.obj ((some name, value) :: done).reverse, rest)
        | _ => none := by
  rw [quoted_append, readMembers, readString_string]
  dsimp only
  rw [skipSpace_of_head rfl]
  rfl

theorem compactItems_cons (j : Json) (items : List Json) :
    compactItems (j :: items) = j.compactChars ++
      (match items with
        | [] => [']']
        | items => ',' :: compactItems items) := by
  cases items with
  | nil => rfl
  | cons k items => exact compactItems.eq_3 _ _ (by simp)

theorem compactMembers_cons (name : String) (j : Json) (members : List (String × Json)) :
    compactMembers ((name, j) :: members) = quoted name ++ ':' :: (j.compactChars ++
      (match members with
        | [] => ['\x7d']
        | members => ',' :: compactMembers members)) := by
  cases members with
  | nil => simp [compactMembers]
  | cons m members =>
    rw [compactMembers.eq_3 _ _ _ (by simp), List.append_assoc]
    simp

-- The recursion is on the value. Each reader is given at least as much fuel as there is text, and
-- what it hands on is a shorter text and one unit less.
mutual

theorem readTree_compactChars : (j : Json) → {fuel : Nat} → j.compactChars.length ≤ fuel →
    {rest : List Char} → Ends rest → readTree fuel (j.compactChars ++ rest) = some (j.tree, rest)
  | null, fuel, enough, rest, _ => by
    obtain ⟨fuel, rfl⟩ := fuel_of_front enough
    rfl
  | bool true, fuel, enough, rest, _ => by
    obtain ⟨fuel, rfl⟩ := fuel_of_front enough
    rfl
  | bool false, fuel, enough, rest, _ => by
    obtain ⟨fuel, rfl⟩ := fuel_of_front enough
    rfl
  | num n, fuel, enough, rest, ends => by
    obtain ⟨fuel, rfl⟩ := fuel_of_front enough
    rw [compactChars, ← n.numeral_chars]
    exact readTree_numeral n.numeral_grammatical fuel ends
  | str s, fuel, enough, rest, _ => by
    obtain ⟨fuel, rfl⟩ := fuel_of_front enough
    rw [compactChars, quoted_append, readTree, readString_string]
    rfl
  | arr [], fuel, enough, rest, _ => by
    obtain ⟨fuel, rfl⟩ := fuel_of_front enough
    rfl
  | arr (j :: items), fuel, enough, rest, _ => by
    obtain ⟨fuel, rfl⟩ := fuel_of_front enough
    rw [compactChars, List.length_cons] at enough
    have read := readItems_compactItems (j :: items) (by simp)
      (Nat.le_of_succ_le_succ enough) [] rest
    obtain ⟨c, more, text, mark, other⟩ := j.compactChars_front
    rw [compactItems_cons, text, List.cons_append, List.cons_append] at read
    rw [compactChars, compactItems_cons, text, List.cons_append, List.cons_append,
      List.cons_append, readTree, skipSpace_of_head mark]
    split
    · next same => exact absurd (List.cons.inj same).1 other
    · exact read
  | obj [], fuel, enough, rest, _ => by
    obtain ⟨fuel, rfl⟩ := fuel_of_front enough
    rfl
  | obj (m :: members), fuel, enough, rest, _ => by
    obtain ⟨fuel, rfl⟩ := fuel_of_front enough
    rw [compactChars, List.length_cons] at enough
    have read := readMembers_compactMembers (m :: members) (by simp)
      (Nat.le_of_succ_le_succ enough) [] rest
    obtain ⟨name, j⟩ := m
    rw [compactMembers_cons, List.append_assoc, quoted_append] at read
    rw [compactChars, compactMembers_cons, List.cons_append, List.append_assoc, quoted_append,
      readTree, skipSpace_of_head rfl]
    exact read

theorem readItems_compactItems : (items : List Json) → items ≠ [] → {fuel : Nat} →
    (compactItems items).length ≤ fuel → (done : List Tree) → (rest : List Char) →
    readItems fuel done (compactItems items ++ rest) =
      some (.arr (done.reverse ++ trees items), rest)
  | [], some_item, _, _, _, _ => absurd rfl some_item
  | [j], _, fuel, enough, done, rest => by
    rw [compactItems, List.length_append, List.length_singleton] at enough
    obtain ⟨fuel, rfl⟩ := Nat.exists_eq_succ_of_ne_zero (show fuel ≠ 0 by omega)
    have read := readTree_compactChars j (Nat.le_of_succ_le_succ enough)
      (ends_mark (by decide : (']').isDigit = false ∧ _) rest)
    rw [compactItems, List.append_assoc, List.singleton_append, readItems, read]
    dsimp only
    rw [skipSpace_of_head rfl]
    simp [trees]
  | j :: k :: items, _, fuel, enough, done, rest => by
    rw [compactItems_cons, List.length_append, List.length_cons] at enough
    obtain ⟨fuel, rfl⟩ := Nat.exists_eq_succ_of_ne_zero (show fuel ≠ 0 by omega)
    have read := readTree_compactChars j (show _ ≤ fuel by omega)
      (ends_mark (by decide : (',').isDigit = false ∧ _) (compactItems (k :: items) ++ rest))
    have later := readItems_compactItems (k :: items) (by simp) (show _ ≤ fuel by omega)
      (j.tree :: done) rest
    have next : skipSpace (compactItems (k :: items) ++ rest) =
        compactItems (k :: items) ++ rest := by
      rw [compactItems_cons, List.append_assoc, skipSpace_compactChars]
    rw [compactItems_cons, List.append_assoc, List.cons_append, readItems, read]
    dsimp only
    rw [skipSpace_of_head rfl]
    change readItems fuel (j.tree :: done) (skipSpace (compactItems (k :: items) ++ rest)) = _
    rw [next, later]
    simp [trees]

theorem readMembers_compactMembers : (members : List (String × Json)) → members ≠ [] →
    {fuel : Nat} → (compactMembers members).length ≤ fuel →
    (done : List (Option String × Tree)) → (rest : List Char) →
    readMembers fuel done (compactMembers members ++ rest) =
      some (.obj (done.reverse ++ memberTrees members), rest)
  | [], some_member, _, _, _, _ => absurd rfl some_member
  | [(name, j)], _, fuel, enough, done, rest => by
    rw [compactMembers_cons, List.length_append, List.length_cons, List.length_append,
      List.length_singleton] at enough
    obtain ⟨fuel, rfl⟩ := Nat.exists_eq_succ_of_ne_zero (show fuel ≠ 0 by omega)
    have read := readTree_compactChars j (show _ ≤ fuel by omega)
      (ends_mark (by decide : ('\x7d').isDigit = false ∧ _) rest)
    rw [compactMembers_cons, List.append_assoc, List.cons_append, List.append_assoc,
      List.singleton_append, readMembers_quoted, skipSpace_compactChars, read]
    dsimp only
    rw [skipSpace_of_head rfl]
    simp [memberTrees]
  | (name, j) :: m :: members, _, fuel, enough, done, rest => by
    rw [compactMembers_cons, List.length_append, List.length_cons, List.length_append,
      List.length_cons] at enough
    obtain ⟨fuel, rfl⟩ := Nat.exists_eq_succ_of_ne_zero (show fuel ≠ 0 by omega)
    have read := readTree_compactChars j (show _ ≤ fuel by omega)
      (ends_mark (by decide : (',').isDigit = false ∧ _) (compactMembers (m :: members) ++ rest))
    have later := readMembers_compactMembers (m :: members) (by simp) (show _ ≤ fuel by omega)
      ((some name, j.tree) :: done) rest
    have next : skipSpace (compactMembers (m :: members) ++ rest) =
        compactMembers (m :: members) ++ rest := by
      obtain ⟨name, k⟩ := m
      rw [compactMembers_cons, List.append_assoc, quoted_append, skipSpace_of_head rfl]
    rw [compactMembers_cons, List.append_assoc, List.cons_append, List.append_assoc,
      List.cons_append, readMembers_quoted, skipSpace_compactChars, read]
    dsimp only
    rw [skipSpace_of_head rfl]
    change readMembers fuel ((some name, j.tree) :: done)
      (skipSpace (compactMembers (m :: members) ++ rest)) = _
    rw [next, later]
    simp [memberTrees]

end

theorem ofChars?_compactChars (j : Json) : Tree.ofChars? j.compactChars = some j.tree := by
  have read := readTree_compactChars j (show _ ≤ 2 * j.compactChars.length + 2 by omega)
    (fun c first => nomatch first : Ends [])
  have front := skipSpace_compactChars j []
  rw [List.append_nil] at read front
  rw [Tree.ofChars?, front, read]
  rfl

/-! What a text spells. -/

/-- A value with numbers that a text can spell and with so many containers inside each other. -/
inductive HeldIn : Nat → Json → Prop
  | null {room : Nat} : HeldIn room null
  | bool {room : Nat} (b : Bool) : HeldIn room (bool b)
  | num {room : Nat} {n : Number} (sound : n.IsSound) : HeldIn room (num n)
  | str {room : Nat} (s : String) : HeldIn room (str s)
  | arr {room : Nat} {items : List Json} (each : ∀ j ∈ items, HeldIn room j) :
      HeldIn (room + 1) (arr items)
  | obj {room : Nat} {members : List (String × Json)} (each : ∀ m ∈ members, HeldIn room m.2) :
      HeldIn (room + 1) (obj members)

namespace HeldIn

variable {room : Nat} {j : Json}

theorem more (held : HeldIn room j) {wide : Nat} (le : room ≤ wide) : HeldIn wide j := by
  induction held generalizing wide with
  | null => exact .null
  | bool b => exact .bool b
  | num sound => exact .num sound
  | str s => exact .str s
  | arr each ih =>
    obtain ⟨wide, rfl⟩ := Nat.exists_eq_succ_of_ne_zero (show wide ≠ 0 by omega)
    exact .arr fun j member => ih j member (Nat.le_of_succ_le_succ le)
  | obj each ih =>
    obtain ⟨wide, rfl⟩ := Nat.exists_eq_succ_of_ne_zero (show wide ≠ 0 by omega)
    exact .obj fun m member => ih m member (Nat.le_of_succ_le_succ le)

theorem item {items : List Json} (held : HeldIn room (Json.arr items)) :
    ∀ j ∈ items, HeldIn room j := by
  cases held with
  | arr each => exact fun j member => (each j member).more (Nat.le_succ _)

theorem member {members : List (String × Json)} (held : HeldIn room (Json.obj members)) :
    ∀ m ∈ members, HeldIn room m.2 := by
  cases held with
  | obj each => exact fun m member => (each m member).more (Nat.le_succ _)

end HeldIn

theorem inherited_heldIn (room : Nat) : Inherited (HeldIn room) where
  item held := held.item
  member held := held.member

theorem values?_trees {room : Nat} {items : List Json}
    (each : ∀ j ∈ items, ∃ k, j.tree.value? room = some k) :
    ∃ values, Tree.values? room (trees items) = some values := by
  induction items with
  | nil => exact ⟨[], rfl⟩
  | cons j items ih =>
    obtain ⟨value, made⟩ := each j List.mem_cons_self
    obtain ⟨values, rest⟩ := ih fun k member => each k (List.mem_cons_of_mem j member)
    refine ⟨value :: values, ?_⟩
    rw [trees, Tree.values?, made, rest]
    rfl

theorem memberValues?_memberTrees {room : Nat} {members : List (String × Json)}
    (each : ∀ m ∈ members, ∃ k, m.2.tree.value? room = some k) :
    ∃ values, Tree.memberValues? room (memberTrees members) = some values := by
  induction members with
  | nil => exact ⟨[], rfl⟩
  | cons m members ih =>
    obtain ⟨name, j⟩ := m
    obtain ⟨value, made⟩ := each (name, j) List.mem_cons_self
    obtain ⟨values, rest⟩ := ih fun k member => each k (List.mem_cons_of_mem _ member)
    refine ⟨(name, value) :: values, ?_⟩
    rw [memberTrees, Tree.memberValues?, made, rest]
    rfl

theorem HeldIn.value?_tree {room : Nat} {j : Json} (held : HeldIn room j) :
    ∃ k, j.tree.value? room = some k := by
  induction held with
  | null => exact ⟨_, rfl⟩
  | bool b => exact ⟨_, rfl⟩
  | num sound =>
    obtain ⟨m, made⟩ := Number.number?_numeral sound
    exact ⟨.num m, by rw [tree, Tree.value?, made]; rfl⟩
  | str s => exact ⟨_, rfl⟩
  | arr each ih =>
    obtain ⟨values, made⟩ := values?_trees ih
    exact ⟨.arr values, by rw [tree, Tree.value?, made]; rfl⟩
  | obj each ih =>
    obtain ⟨values, made⟩ := memberValues?_memberTrees ih
    exact ⟨_, by rw [tree, Tree.value?, made]; rfl⟩

/-! Trees that give values give such. -/

mutual

theorem heldIn_of_value? {room : Nat} {j : Json} :
    (t : Tree) → t.value? room = some j → HeldIn room j
  | .null, read => by cases read; exact .null
  | .bool b, read => by cases read; exact .bool b
  | .num n, read => by
    obtain ⟨value, made, rfl⟩ := Option.map_eq_some_iff.1 read
    exact .num (Numeral.number?_sound made)
  | .str s, read => by
    obtain ⟨value, _, rfl⟩ := Option.map_eq_some_iff.1 read
    exact .str value
  | .arr items, read => by
    cases room with
    | zero => exact nomatch read
    | succ room =>
      obtain ⟨values, found, rfl⟩ := Option.map_eq_some_iff.1 read
      exact .arr (heldIn_of_values? items found)
  | .obj members, read => by
    cases room with
    | zero => exact nomatch read
    | succ room =>
      obtain ⟨values, found, rfl⟩ := Option.map_eq_some_iff.1 read
      exact .obj fun m member =>
        heldIn_of_memberValues? members found m (Table.mem_of_mem_ofList member)

theorem heldIn_of_values? {room : Nat} {values : List Json} :
    (items : List Tree) → Tree.values? room items = some values → ∀ j ∈ values, HeldIn room j
  | [], read => by cases read; simp
  | t :: rest, read => by
    simp only [Tree.values?, Option.bind_eq_bind, Option.bind_eq_some_iff] at read
    obtain ⟨first, foundFirst, later, foundLater, same⟩ := read
    cases same
    exact List.forall_mem_cons.2 ⟨heldIn_of_value? t foundFirst, heldIn_of_values? rest foundLater⟩

theorem heldIn_of_memberValues? {room : Nat} {values : List (String × Json)} :
    (members : List (Option String × Tree)) → Tree.memberValues? room members = some values →
      ∀ m ∈ values, HeldIn room m.2
  | [], read => by cases read; simp
  | (name, t) :: rest, read => by
    simp only [Tree.memberValues?, Option.bind_eq_bind, Option.bind_eq_some_iff] at read
    obtain ⟨key, _, first, foundFirst, later, foundLater, same⟩ := read
    cases same
    exact List.forall_mem_cons.2
      ⟨heldIn_of_value? t foundFirst, heldIn_of_memberValues? rest foundLater⟩

end

mutual

theorem heldIn_of_shaped? {room : Nat} {shape : Shape} {j : Json} :
    (t : Tree) → t.shaped? room shape = some j → HeldIn room j
  | .null, read => heldIn_of_value? .null (by rwa [Tree.shaped?] at read <;> simp)
  | .bool b, read => heldIn_of_value? (.bool b) (by rwa [Tree.shaped?] at read <;> simp)
  | .num n, read => heldIn_of_value? (.num n) (by rwa [Tree.shaped?] at read <;> simp)
  | .str s, read => heldIn_of_value? (.str s) (by rwa [Tree.shaped?] at read <;> simp)
  | .arr items, read => by
    cases shape with
    | free => exact heldIn_of_value? (.arr items) (by rwa [Tree.shaped?] at read <;> simp)
    | list item =>
      cases room with
      | zero => exact nomatch read
      | succ room =>
        obtain ⟨values, found, rfl⟩ := Option.map_eq_some_iff.1 read
        exact .arr (heldIn_of_shapedItems? items found)
    | record members isOpen =>
      cases room with
      | zero => exact nomatch read
      | succ room =>
        obtain ⟨values, found, rfl⟩ := Option.map_eq_some_iff.1 read
        exact .arr (heldIn_of_shapedPlaces? items found)
  | .obj members, read => by
    cases shape with
    | free => exact heldIn_of_value? (.obj members) (by rwa [Tree.shaped?] at read <;> simp)
    | list item => exact heldIn_of_value? (.obj members) (by rwa [Tree.shaped?] at read <;> simp)
    | record known isOpen =>
      cases room with
      | zero => exact nomatch read
      | succ room =>
        obtain ⟨values, found, rfl⟩ := Option.map_eq_some_iff.1 read
        exact .obj (heldIn_of_shapedMembers? members found)

theorem heldIn_of_shapedItems? {room : Nat} {shape : Shape} {values : List Json} :
    (items : List Tree) → Tree.shapedItems? room shape items = some values →
      ∀ j ∈ values, HeldIn room j
  | [], read => by cases read; simp
  | t :: rest, read => by
    simp only [Tree.shapedItems?, Option.bind_eq_bind, Option.bind_eq_some_iff] at read
    obtain ⟨first, foundFirst, later, foundLater, same⟩ := read
    cases same
    exact List.forall_mem_cons.2
      ⟨heldIn_of_shaped? t foundFirst, heldIn_of_shapedItems? rest foundLater⟩

theorem heldIn_of_shapedPlaces? {room : Nat} {shapes : List Shape} {values : List Json} :
    (items : List Tree) → Tree.shapedPlaces? room shapes items = some values →
      ∀ j ∈ values, HeldIn room j
  | [], read => by cases read; simp
  | t :: rest, read => by
    simp only [Tree.shapedPlaces?, Option.bind_eq_bind, Option.bind_eq_some_iff] at read
    obtain ⟨first, foundFirst, later, foundLater, same⟩ := read
    cases same
    exact List.forall_mem_cons.2
      ⟨heldIn_of_shaped? t foundFirst, heldIn_of_shapedPlaces? rest foundLater⟩

theorem heldIn_of_shapedMembers? {room : Nat} {known : List (String × Shape)} {isOpen : Bool}
    {values : List (String × Json)} :
    (members : List (Option String × Tree)) →
      Tree.shapedMembers? room known isOpen members = some values → ∀ m ∈ values, HeldIn room m.2
  | [], read => by cases read; simp
  | (name, t) :: rest, read => by
    simp only [Tree.shapedMembers?, Option.bind_eq_bind, Option.bind_eq_some_iff] at read
    obtain ⟨key, _, later, foundLater, same⟩ := read
    have others := heldIn_of_shapedMembers? rest foundLater
    split at same
    · obtain ⟨first, foundFirst, same⟩ := Option.bind_eq_some_iff.1 same
      cases same
      exact List.forall_mem_cons.2 ⟨heldIn_of_shaped? t foundFirst, others⟩
    · split at same
      · obtain ⟨first, foundFirst, same⟩ := Option.bind_eq_some_iff.1 same
        cases same
        exact List.forall_mem_cons.2 ⟨heldIn_of_value? t foundFirst, others⟩
      · cases same
        exact others

end

theorem heldIn_of_shapedText? {shape : Shape} {s : String} {j : Json}
    (read : shapedText? shape s = some j) : HeldIn depthLimit j := by
  obtain ⟨t, _, value⟩ := Option.bind_eq_some_iff.1 read
  exact heldIn_of_shaped? t value

end Json

end Stepwise
