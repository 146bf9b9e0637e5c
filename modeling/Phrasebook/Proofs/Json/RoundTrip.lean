import Phrasebook.Proofs.Dictionary.Maps
import Phrasebook.Proofs.Json.Reals

/-!
# Values that are read back

The written form of a value, however it is indented, is read as one tree (`tree`, `takes_write`): a value between brackets is
followed by a comma or the end of its list, which nothing that is read takes with it. The tree has the value, but for its real
numbers, which may be read as others (`value?_tree`). So a rendered value is read (`read?_render`) if its numbers are in range, no
object has a key twice, and it is not nested too deep; it comes back as it is if its numbers do (`reread_eq`); and what was read
once is such a value (`comesBack_of_value?`).
-/

namespace Phrasebook.Json

open Text Json.Tree
open Message (Stops stops_cons)

variable {indent level : Nat} {rest s b : List Char} {c : Char}

/-! ## Values -/

mutual

/-- How deep the arrays and objects of a value are nested. -/
def depth : Json → Nat
  | .array items => depthOfItems items + 1
  | .object members => depthOfMembers members + 1
  | _ => 0

/-- The greatest depth of the items. -/
def depthOfItems : List Json → Nat
  | [] => 0
  | item :: items => max item.depth (depthOfItems items)

/-- The greatest depth of the members. -/
def depthOfMembers : List (String × Json) → Nat
  | [] => 0
  | (_, value) :: members => max value.depth (depthOfMembers members)

end

mutual

/-- The numbers of a value that are not whole by kind. -/
def reals : Json → List Number
  | .real x => [x]
  | .array items => realsOfItems items
  | .object members => realsOfMembers members
  | _ => []

/-- The numbers of items that are not whole by kind. -/
def realsOfItems : List Json → List Number
  | [] => []
  | item :: items => item.reals ++ realsOfItems items

/-- The numbers of members that are not whole by kind. -/
def realsOfMembers : List (String × Json) → List Number
  | [] => []
  | (_, value) :: members => value.reals ++ realsOfMembers members

end

mutual

/-- Can the value be read when it has been written, but for its depth? -/
def IsReadable : Json → Prop
  | .integer k => FitsInteger k
  | .real x => x.InRange
  | .array items => AreReadable items
  | .object members => (members.map Prod.fst).Nodup ∧ HaveReadable members
  | _ => True

/-- Can all items be read? -/
def AreReadable : List Json → Prop
  | [] => True
  | item :: items => item.IsReadable ∧ AreReadable items

/-- Can the values of all members be read? -/
def HaveReadable : List (String × Json) → Prop
  | [] => True
  | (_, value) :: members => value.IsReadable ∧ HaveReadable members

end

mutual

/-- What a value is read as when it has been written: its real numbers may be others. -/
def reread : Json → Json
  | .real x => .real (rereadNumber x)
  | .array items => .array (rereadItems items)
  | .object members => .object (rereadMembers members)
  | value => value

/-- What items are read as. -/
def rereadItems : List Json → List Json
  | [] => []
  | item :: items => item.reread :: rereadItems items

/-- What members are read as. -/
def rereadMembers : List (String × Json) → List (String × Json)
  | [] => []
  | (name, value) :: members => (name, value.reread) :: rereadMembers members

end

theorem rereadMembers_eq_map (members : List (String × Json)) :
    rereadMembers members = members.map fun (name, value) => (name, value.reread) := by
  induction members with
  | nil => rfl
  | cons member members ih => rw [rereadMembers, ih, List.map_cons]

mutual

/-- A value is read as it is if its numbers are. -/
theorem reread_eq : (value : Json) → (∀ x ∈ value.reals, ReadsBack x) → value.reread = value
  | .real x, h => by rw [reread, (h x (by simp [reals])).rereadNumber_eq]
  | .array items, h => by rw [reread, rereadItems_eq items h]
  | .object members, h => by rw [reread, rereadMembers_eq members h]
  | .null, _ | .bool _, _ | .integer _, _ | .string _, _ => rfl

theorem rereadItems_eq : (items : List Json) → (∀ x ∈ realsOfItems items, ReadsBack x) → rereadItems items = items
  | [], _ => rfl
  | item :: items, h => by
    rw [realsOfItems, List.forall_mem_append] at h
    rw [rereadItems, reread_eq item h.1, rereadItems_eq items h.2]

theorem rereadMembers_eq : (members : List (String × Json)) → (∀ x ∈ realsOfMembers members, ReadsBack x) →
    rereadMembers members = members
  | [], _ => rfl
  | (name, value) :: members, h => by
    rw [realsOfMembers, List.forall_mem_append] at h
    rw [rereadMembers, reread_eq value h.1, rereadMembers_eq members h.2]

end

/-! ## Trees of values -/

mutual

/-- The tree that a value is read as when it has been written. -/
def tree : Json → Tree
  | .null => .null
  | .bool b => .bool b
  | .integer k => .number (integerNumeral k)
  | .real x => (Tree.read? (Json.real x).compact).getD .null
  | .string s => .string (some s)
  | .array items => .array (treesOfItems items)
  | .object members => .object (treesOfMembers members)

/-- The trees that items are read as. -/
def treesOfItems : List Json → List Tree
  | [] => []
  | item :: items => item.tree :: treesOfItems items

/-- The names and trees that members are read as. -/
def treesOfMembers : List (String × Json) → List (Option String × Tree)
  | [] => []
  | (name, value) :: members => (some name, value.tree) :: treesOfMembers members

end

/-- A number that can be read is written as the numeral of its tree, which names what it is read as. -/
theorem numeral_of_isReadable (indent level : Nat) {value : Json} (h : value.IsReadable)
    (hnumber : (∃ k, value = .integer k) ∨ ∃ x, value = .real x) :
    ∃ n a, NumeralText n a ∧ write indent level value = Number.signText n.negative ++ a ∧ value.tree = .number n ∧
      n.value? = some value.reread := by
  rcases hnumber with ⟨k, rfl⟩ | ⟨x, rfl⟩
  · rw [IsReadable] at h
    refine ⟨integerNumeral k, _, numeralText_integerNumeral k, ?_, rfl, value?_integerNumeral h⟩
    rw [write, writeInteger]
    rfl
  · rw [IsReadable] at h
    obtain ⟨n, a, ha, hwrite, hn⟩ := exists_numeral h
    exact ⟨n, a, ha, by rw [write, hwrite], by rw [tree, treeRead?_compact_real ha hwrite, Option.getD_some], hn⟩

mutual

/-- The tree of a value has the value, but for real numbers that are read as others. -/
theorem value?_tree : (value : Json) → value.IsReadable → value.tree.value? = some value.reread
  | .null, _ | .bool _, _ | .string _, _ => rfl
  | .integer k, h => by
    obtain ⟨n, a, -, -, htree, hn⟩ := numeral_of_isReadable 0 0 h (.inl ⟨k, rfl⟩)
    rw [htree, Tree.value?, hn]
  | .real x, h => by
    obtain ⟨n, a, -, -, htree, hn⟩ := numeral_of_isReadable 0 0 h (.inr ⟨x, rfl⟩)
    rw [htree, Tree.value?, hn]
  | .array items, h => by
    rw [IsReadable] at h
    rw [tree, Tree.value?, items?_treesOfItems items h, reread, Option.map_some]
  | .object members, h => by
    rw [IsReadable] at h
    have hnodup : ((rereadMembers members).map Prod.fst).Nodup := by
      simpa [rereadMembers_eq_map, Function.comp_def] using h.1
    have hentries : (OrderedMap.ofList (rereadMembers members)).entries = rereadMembers members :=
      congrArg OrderedMap.entries (OrderedMap.ofList_entries ⟨_, hnodup⟩)
    rw [tree, Tree.value?, members?_treesOfMembers members h.2, reread, Option.map_some, hentries]

theorem items?_treesOfItems : (items : List Json) → AreReadable items →
    Tree.items? (treesOfItems items) = some (rereadItems items)
  | [], _ => rfl
  | item :: items, h => by
    rw [AreReadable] at h
    simp [treesOfItems, Tree.items?, rereadItems, value?_tree item h.1, items?_treesOfItems items h.2]

theorem members?_treesOfMembers : (members : List (String × Json)) → HaveReadable members →
    Tree.members? (treesOfMembers members) = some (rereadMembers members)
  | [], _ => rfl
  | (name, value) :: members, h => by
    rw [HaveReadable] at h
    simp [treesOfMembers, Tree.members?, rereadMembers, value?_tree value h.1, members?_treesOfMembers members h.2]

end

mutual

theorem depth_tree : (value : Json) → value.IsReadable → value.tree.depth = value.depth
  | .null, _ | .bool _, _ | .string _, _ | .integer _, _ => rfl
  | .real x, h => by
    obtain ⟨n, a, -, -, htree, -⟩ := numeral_of_isReadable 0 0 h (.inr ⟨x, rfl⟩)
    rw [htree]
    rfl
  | .array items, h => by
    rw [IsReadable] at h
    rw [tree, Tree.depth, depth, depthOfItems_treesOfItems items h]
  | .object members, h => by
    rw [IsReadable] at h
    rw [tree, Tree.depth, depth, depthOfMembers_treesOfMembers members h.2]

theorem depthOfItems_treesOfItems : (items : List Json) → AreReadable items →
    Tree.depthOfItems (treesOfItems items) = depthOfItems items
  | [], _ => rfl
  | item :: items, h => by
    rw [AreReadable] at h
    rw [treesOfItems, Tree.depthOfItems, depthOfItems, depth_tree item h.1, depthOfItems_treesOfItems items h.2]

theorem depthOfMembers_treesOfMembers : (members : List (String × Json)) → HaveReadable members →
    Tree.depthOfMembers (treesOfMembers members) = depthOfMembers members
  | [], _ => rfl
  | (name, value) :: members, h => by
    rw [HaveReadable] at h
    rw [treesOfMembers, Tree.depthOfMembers, depthOfMembers, depth_tree value h.1,
      depthOfMembers_treesOfMembers members h.2]

end

/-! ## Words and separators -/

theorem takes_readWord? (word : List Char) (t : Tree) (rest : List Char) :
    Takes (readWord? word t (word ++ rest)) t rest := by
  have hread : Takes (readPrefix? word (word ++ rest)) () rest := by
    unfold readPrefix?
    split
    · next h => rw [afterPrefix?_eq_some_iff.mpr rfl] at h; cases h
    · next rest' h =>
      obtain rfl := List.append_cancel_left (afterPrefix?_eq_some_iff.mp h)
      exact takes_some_iff.mpr ⟨rfl, rfl⟩
  exact hread.map fun _ => t

theorem spaces_lineBreak (indent level : Nat) : Spaces (lineBreak indent level) := by
  intro c hc
  unfold lineBreak at hc
  split at hc
  · cases hc
  · rcases List.mem_cons.mp hc with rfl | hc
    · rfl
    · rw [List.eq_of_mem_replicate hc]
      rfl

theorem spaces_nil : Spaces [] := fun _ hc => absurd hc List.not_mem_nil

/-- A comma or a closing bracket is read with the white space before it. -/
theorem takes_readSeparator? {closing : Char} (hb : Spaces b) (hc : c = ',' ∨ c = closing) (hspace : isSpace c = false) :
    Takes (readSeparator? closing (b ++ c :: rest)) (c == ',') rest := by
  refine (takes_readNext? hb hspace).bind fun below => ?_
  rw [if_pos hc]
  exact takes_some_iff.mpr ⟨rfl, rfl⟩

/-- A list without items is closed at once. -/
theorem takes_readEmpty? {closing : Char} (hspace : isSpace closing = false) :
    Takes (readEmpty? closing (closing :: rest)) () rest := by
  refine (takes_readNext? spaces_nil hspace).bind fun below => ?_
  rw [if_pos rfl]
  exact takes_some_iff.mpr ⟨rfl, rfl⟩

/-- A list with items is not closed at once. -/
theorem readEmpty?_of_ne {closing : Char} (hb : Spaces b) (hspace : isSpace c = false) (hne : c ≠ closing) :
    readEmpty? closing (b ++ c :: rest) = none := by
  have hfirst : Takes (readNext? (b ++ c :: rest)) c rest := takes_readNext? hb hspace
  obtain ⟨below, hnext⟩ := hfirst
  rw [readEmpty?, hnext]
  exact if_neg hne

/-- The name of a member is read with its colon. -/
theorem takes_readKey? (name : String) (hb : Spaces b) :
    Takes (readKey? (b ++ (writeString name ++ ':' :: rest))) (some name) rest := by
  rw [writeString, List.cons_append, List.append_assoc]
  refine (takes_readNext? hb (by decide)).bind fun below => ?_
  rw [if_pos rfl]
  refine (takes_readString? name (':' :: rest)).bind fun below => ?_
  refine (takes_readNext? spaces_nil (by decide : isSpace ':' = false)).bind fun below => ?_
  rw [if_pos rfl]
  exact takes_some_iff.mpr ⟨rfl, rfl⟩

/-! ## Written values -/

/-- The first character of a written value is no white space and closes no array. -/
theorem write_head (indent level : Nat) {value : Json} (h : value.IsReadable) :
    ∃ c tail, write indent level value = c :: tail ∧ isSpace c = false ∧ c ≠ ']' := by
  have hnumeral : (∃ k, value = .integer k) ∨ (∃ x, value = .real x) →
      ∃ c tail, write indent level value = c :: tail ∧ isSpace c = false ∧ c ≠ ']' := by
    intro hnumber
    obtain ⟨n, a, ha, hwrite, -, -⟩ := numeral_of_isReadable indent level h hnumber
    cases hsign : n.negative with
    | true => exact ⟨'-', a, by rw [hwrite, hsign]; rfl, by decide, by decide⟩
    | false =>
      cases ha with
      | mk hi hd he =>
        obtain ⟨c, tail, rfl, hc⟩ := hi.1.head
        refine ⟨c, _, by rw [hwrite, hsign]; rfl, isSpace_of_isDigit hc, ?_⟩
        rintro rfl
        revert hc
        decide
  match value with
  | .integer k => exact hnumeral (.inl ⟨k, rfl⟩)
  | .real x => exact hnumeral (.inr ⟨x, rfl⟩)
  | .null => exact ⟨'n', _, rfl, by decide, by decide⟩
  | .bool true => exact ⟨'t', _, rfl, by decide, by decide⟩
  | .bool false => exact ⟨'f', _, rfl, by decide, by decide⟩
  | .string _ => exact ⟨'"', _, rfl, by decide, by decide⟩
  | .array [] => exact ⟨'[', _, rfl, by decide, by decide⟩
  | .array (_ :: _) => exact ⟨'[', _, rfl, by decide, by decide⟩
  | .object [] => exact ⟨'{', _, rfl, by decide, by decide⟩
  | .object (_ :: _) => exact ⟨'{', _, rfl, by decide, by decide⟩

/-- Nothing that follows a value in a list goes on with a numeral. -/
theorem stops_lineBreak (hc : continuesNumeral c = false) :
    Stops continuesNumeral (lineBreak indent level ++ c :: rest) := by
  unfold lineBreak
  split
  · exact stops_cons hc
  · exact stops_cons (by decide)

theorem stops_writeItems (items : List Json) : Stops continuesNumeral (writeItems indent level items ++ rest) := by
  cases items with
  | nil =>
    rw [writeItems, List.append_assoc]
    exact stops_lineBreak (by decide)
  | cons => exact stops_cons (by decide)

theorem stops_writeMembers (members : List (String × Json)) :
    Stops continuesNumeral (writeMembers indent level members ++ rest) := by
  cases members with
  | nil =>
    rw [writeMembers, List.append_assoc]
    exact stops_lineBreak (by decide)
  | cons => exact stops_cons (by decide)

/-- A value is read with the white space before it. -/
theorem takes_readValue? {t : Tree} (hb : Spaces b) (hc : isSpace c = false) (h : Takes (readAfter? c s) t rest) :
    Takes (readValue? (b ++ c :: s)) t rest := by
  rw [readValue?]
  refine (takes_readNext? hb hc).bind fun below => ?_
  exact h.bind fun below => takes_some_iff.mpr ⟨rfl, rfl⟩

/-- An array ends at once or has items. -/
theorem takes_readAfter?_bracket {items : List Tree}
    (h : items = [] ∧ Takes (readEmpty? ']' s) () rest ∨ readEmpty? ']' s = none ∧ Takes (readItems? s) items rest) :
    Takes (readAfter? '[' s) (.array items) rest := by
  rw [readAfter?]
  simp only [Char.reduceEq, if_false, if_true]
  rcases h with ⟨rfl, below, hempty⟩ | ⟨hempty, hitems⟩
  · rw [hempty]
    exact takes_some_iff.mpr ⟨rfl, rfl⟩
  · rw [hempty]
    exact hitems.bind fun below => takes_some_iff.mpr ⟨rfl, rfl⟩

/-- An object ends at once or has members. -/
theorem takes_readAfter?_brace {members : List (Option String × Tree)}
    (h : members = [] ∧ Takes (readEmpty? '}' s) () rest ∨ readEmpty? '}' s = none ∧ Takes (readMembers? s) members rest) :
    Takes (readAfter? '{' s) (.object members) rest := by
  rw [readAfter?]
  simp only [Char.reduceEq, if_false, if_true]
  rcases h with ⟨rfl, below, hempty⟩ | ⟨hempty, hmembers⟩
  · rw [hempty]
    exact takes_some_iff.mpr ⟨rfl, rfl⟩
  · rw [hempty]
    exact hmembers.bind fun below => takes_some_iff.mpr ⟨rfl, rfl⟩

/-- The first items of an array end at a comma or a bracket. -/
theorem takes_readItems? {t : Tree} {ts : List Tree} {r : List Char} (hvalue : Takes (readValue? s) t (b ++ c :: r))
    (hb : Spaces b)
    (h : c = ']' ∧ ts = [] ∧ r = rest ∨ c = ',' ∧ Takes (readItems? r) ts rest) :
    Takes (readItems? s) (t :: ts) rest := by
  rw [readItems?]
  refine hvalue.bind fun below => ?_
  rcases h with ⟨rfl, rfl, rfl⟩ | ⟨rfl, hitems⟩
  · refine (takes_readSeparator? (c := ']') hb (.inr rfl) (by decide)).bind fun below => ?_
    exact takes_some_iff.mpr ⟨rfl, rfl⟩
  · refine (takes_readSeparator? (c := ',') hb (.inl rfl) (by decide)).bind fun below => ?_
    exact hitems.bind fun below => takes_some_iff.mpr ⟨rfl, rfl⟩

/-- The first members of an object end at a comma or a brace. -/
theorem takes_readMembers? {name : Option String} {t : Tree} {ts : List (Option String × Tree)} {q r : List Char}
    (hname : Takes (readKey? s) name q) (hvalue : Takes (readValue? q) t (b ++ c :: r)) (hb : Spaces b)
    (h : c = '}' ∧ ts = [] ∧ r = rest ∨ c = ',' ∧ Takes (readMembers? r) ts rest) :
    Takes (readMembers? s) ((name, t) :: ts) rest := by
  rw [readMembers?]
  refine hname.bind fun below => ?_
  refine hvalue.bind fun below => ?_
  rcases h with ⟨rfl, rfl, rfl⟩ | ⟨rfl, hmembers⟩
  · refine (takes_readSeparator? (c := '}') hb (.inr rfl) (by decide)).bind fun below => ?_
    exact takes_some_iff.mpr ⟨rfl, rfl⟩
  · refine (takes_readSeparator? (c := ',') hb (.inl rfl) (by decide)).bind fun below => ?_
    exact hmembers.bind fun below => takes_some_iff.mpr ⟨rfl, rfl⟩

/-- White space may stand behind the colon of a member. -/
theorem colon_eq (indent : Nat) : ∃ b, colon indent = ':' :: b ∧ Spaces b := by
  unfold colon
  split
  · exact ⟨[], rfl, spaces_nil⟩
  · exact ⟨[' '], rfl, fun c hc => by rw [List.mem_singleton.mp hc]; rfl⟩

mutual

/-- The written form of a value is read as the tree of the value. -/
theorem takes_write (indent : Nat) : (value : Json) → (level : Nat) → value.IsReadable → (b rest : List Char) → Spaces b →
    Stops continuesNumeral rest → Takes (readValue? (b ++ (write indent level value ++ rest))) value.tree rest
  | .null, _, _, b, rest, hb, _ => by
    refine takes_readValue? (c := 'n') hb (by decide) ?_
    rw [readAfter?]
    exact takes_readWord? ['u', 'l', 'l'] .null rest
  | .bool true, _, _, b, rest, hb, _ => by
    refine takes_readValue? (c := 't') hb (by decide) ?_
    rw [readAfter?]
    exact takes_readWord? ['r', 'u', 'e'] (.bool true) rest
  | .bool false, _, _, b, rest, hb, _ => by
    refine takes_readValue? (c := 'f') hb (by decide) ?_
    rw [readAfter?]
    exact takes_readWord? ['a', 'l', 's', 'e'] (.bool false) rest
  | .integer k, level, h, b, rest, hb, hrest => by
    obtain ⟨n, a, ha, hwrite, htree, -⟩ := numeral_of_isReadable indent level h (.inl ⟨k, rfl⟩)
    rw [hwrite, htree, List.append_assoc]
    exact takes_readValue?_numeral ha hb hrest
  | .real x, level, h, b, rest, hb, hrest => by
    obtain ⟨n, a, ha, hwrite, htree, -⟩ := numeral_of_isReadable indent level h (.inr ⟨x, rfl⟩)
    rw [hwrite, htree, List.append_assoc]
    exact takes_readValue?_numeral ha hb hrest
  | .string s, level, _, b, rest, hb, _ => by
    rw [write, writeString, List.cons_append, List.append_assoc]
    refine takes_readValue? (c := '"') hb (by decide) ?_
    rw [readAfter?]
    exact (takes_readString? s rest).bind fun below => takes_some_iff.mpr ⟨rfl, rfl⟩
  | .array [], _, _, b, rest, hb, _ =>
    takes_readValue? (c := '[') hb (by decide) (takes_readAfter?_bracket (.inl ⟨rfl, takes_readEmpty? (by decide)⟩))
  | .array (item :: items), level, h, b, rest, hb, _ => by
    rw [IsReadable, AreReadable] at h
    obtain ⟨c, tail, hhead, hspace, hne⟩ := write_head indent (level + 1) h.1
    have hbreak := spaces_lineBreak indent (level + 1)
    have hitem := takes_write indent item (level + 1) h.1 (lineBreak indent (level + 1))
      (writeItems indent level items ++ rest) hbreak (stops_writeItems items)
    have hitems := takes_writeItems indent items level h.2 rest hitem
    rw [write, List.cons_append, List.append_assoc, List.append_assoc]
    refine takes_readValue? (c := '[') hb (by decide) (takes_readAfter?_bracket (.inr ⟨?_, hitems⟩))
    rw [hhead]
    exact readEmpty?_of_ne hbreak hspace hne
  | .object [], _, _, b, rest, hb, _ =>
    takes_readValue? (c := '{') hb (by decide) (takes_readAfter?_brace (.inl ⟨rfl, takes_readEmpty? (by decide)⟩))
  | .object ((name, value) :: members), level, h, b, rest, hb, _ => by
    rw [IsReadable, HaveReadable] at h
    obtain ⟨b', hcolon, hb'⟩ := colon_eq indent
    have hbreak := spaces_lineBreak indent (level + 1)
    have hvalue := takes_write indent value (level + 1) h.2.1 b' (writeMembers indent level members ++ rest) hb'
      (stops_writeMembers members)
    have hmembers := takes_writeMembers indent members level h.2.2 rest (takes_readKey? name hbreak) hvalue
    have htext : write indent level (.object ((name, value) :: members)) ++ rest =
        '{' :: (lineBreak indent (level + 1) ++ (writeString name ++
          ':' :: (b' ++ (write indent (level + 1) value ++ (writeMembers indent level members ++ rest))))) := by
      rw [write, hcolon]
      simp only [List.cons_append, List.append_assoc]
    rw [htext]
    exact takes_readValue? (c := '{') hb (by decide)
      (takes_readAfter?_brace (.inr ⟨readEmpty?_of_ne (c := '"') hbreak (by decide) (by decide), hmembers⟩))

/-- The items after a first one are read up to the end of the array. -/
theorem takes_writeItems (indent : Nat) : (items : List Json) → (level : Nat) → AreReadable items →
    {s : List Char} → {t : Tree} → (rest : List Char) → Takes (readValue? s) t (writeItems indent level items ++ rest) →
    Takes (readItems? s) (t :: treesOfItems items) rest
  | [], level, _, s, t, rest, hs => by
    rw [writeItems, List.append_assoc] at hs
    exact takes_readItems? hs (spaces_lineBreak indent level) (.inl ⟨rfl, rfl, rfl⟩)
  | item :: items, level, h, s, t, rest, hs => by
    rw [AreReadable] at h
    rw [writeItems, List.cons_append, List.append_assoc, List.append_assoc] at hs
    have hitem := takes_write indent item (level + 1) h.1 (lineBreak indent (level + 1))
      (writeItems indent level items ++ rest) (spaces_lineBreak indent (level + 1)) (stops_writeItems items)
    exact takes_readItems? (b := []) hs spaces_nil (.inr ⟨rfl, takes_writeItems indent items level h.2 rest hitem⟩)

/-- The members after a first one are read up to the end of the object. -/
theorem takes_writeMembers (indent : Nat) : (members : List (String × Json)) → (level : Nat) → HaveReadable members →
    {s q : List Char} → {name : Option String} → {t : Tree} → (rest : List Char) → Takes (readKey? s) name q →
    Takes (readValue? q) t (writeMembers indent level members ++ rest) →
    Takes (readMembers? s) ((name, t) :: treesOfMembers members) rest
  | [], level, _, s, q, name, t, rest, hname, ht => by
    rw [writeMembers, List.append_assoc] at ht
    exact takes_readMembers? hname ht (spaces_lineBreak indent level) (.inl ⟨rfl, rfl, rfl⟩)
  | (name', value) :: members, level, h, s, q, name, t, rest, hname, ht => by
    rw [HaveReadable] at h
    obtain ⟨b, hcolon, hb⟩ := colon_eq indent
    rw [writeMembers, hcolon] at ht
    simp only [List.cons_append, List.append_assoc] at ht
    have hvalue := takes_write indent value (level + 1) h.1 b (writeMembers indent level members ++ rest) hb
      (stops_writeMembers members)
    have hmembers := takes_writeMembers indent members level h.2 rest
      (takes_readKey? name' (spaces_lineBreak indent (level + 1))) hvalue
    exact takes_readMembers? (b := []) hname ht spaces_nil (.inr ⟨rfl, hmembers⟩)

end

theorem stops_of_spaces (hb : Spaces b) : Stops continuesNumeral b := by
  intro c hc
  have hspace := hb c (List.mem_of_mem_head? hc)
  simp only [isSpace, Bool.or_eq_true, beq_iff_eq] at hspace
  rcases hspace with ((rfl | rfl) | rfl) | rfl <;> decide

/-- A written value is read as its tree, with white space behind it. -/
theorem treeRead?_write (indent : Nat) {value : Json} (h : value.IsReadable) (hb : Spaces b) :
    Tree.read? (String.ofList (write indent 0 value ++ b)) = some value.tree := by
  have ht : Takes (readValue? ([] ++ (write indent 0 value ++ b))) value.tree b :=
    takes_write indent value 0 h [] b spaces_nil (stops_of_spaces hb)
  rw [List.nil_append, ← String.toList_ofList (l := write indent 0 value ++ b)] at ht
  obtain ⟨below, hread⟩ := ht
  have hend : skipSpace b = [] := List.dropWhile_eq_nil_iff.mpr hb
  rw [Tree.read?, hread, Option.bind_eq_bind, Option.bind_some, hend]
  rfl

/-- A rendered value is read, however it is indented. -/
theorem read?_render (indent : Nat) {value : Json} (h : value.IsReadable) (hdepth : value.depth ≤ maxDepth) :
    read? (value.render indent) = some value.reread := by
  have hbreak : Spaces ['\n'] := by
    intro c hc
    rw [List.mem_singleton.mp hc]
    rfl
  have htext : value.render indent = String.ofList (write indent 0 value ++ ['\n']) := by
    rw [render, text, String.ofList_append]
  rw [read?, htext, treeRead?_write indent h hbreak, Option.bind_eq_bind, Option.bind_some, depth_tree value h,
    if_pos hdepth, value?_tree value h]

/-! ## Values that were read -/

theorem depthOfItems_le_iff {items : List Json} {d : Nat} :
    depthOfItems items ≤ d ↔ ∀ item ∈ items, item.depth ≤ d := by
  induction items with
  | nil => simp [depthOfItems]
  | cons item items ih => rw [depthOfItems, Nat.max_le, ih, List.forall_mem_cons]

theorem depthOfMembers_le_iff {members : List (String × Json)} {d : Nat} :
    depthOfMembers members ≤ d ↔ ∀ pair ∈ members, pair.2.depth ≤ d := by
  induction members with
  | nil => simp [depthOfMembers]
  | cons pair members ih => rw [depthOfMembers, Nat.max_le, ih, List.forall_mem_cons]

theorem areReadable_iff {items : List Json} : AreReadable items ↔ ∀ item ∈ items, item.IsReadable := by
  induction items with
  | nil => simp [AreReadable]
  | cons item items ih => simp [AreReadable, ih]

theorem haveReadable_iff {members : List (String × Json)} :
    HaveReadable members ↔ ∀ pair ∈ members, pair.2.IsReadable := by
  induction members with
  | nil => simp [HaveReadable]
  | cons pair members ih => simp [HaveReadable, ih]

/-- The value is nested at most so deep, and can be read when it has been written. -/
def ComesBack (d : Nat) (value : Json) : Prop := value.depth ≤ d ∧ value.IsReadable

mutual

/-- The value of a tree is not nested deeper than the tree, and can be read when it has been written. -/
theorem comesBack_of_value? : (t : Tree) → {value : Json} → t.value? = some value → ComesBack t.depth value
  | .null, value, h => by
    obtain rfl : .null = value := by simpa [Tree.value?] using h
    exact ⟨Nat.le_refl _, trivial⟩
  | .bool x, value, h => by
    obtain rfl : .bool x = value := by simpa [Tree.value?] using h
    exact ⟨Nat.le_refl _, trivial⟩
  | .number n, value, h => by
    rw [Tree.value?] at h
    match value with
    | .integer k => exact ⟨Nat.le_refl _, fitsInteger_of_value? h⟩
    | .real x => exact ⟨Nat.le_refl _, inRange_of_value? h⟩
    | .null | .bool _ | .string _ | .array _ | .object _ =>
      unfold Numeral.value? at h
      split at h <;> simp at h
  | .string s, value, h => by
    obtain ⟨s', -, rfl⟩ := Option.map_eq_some_iff.mp h
    exact ⟨Nat.le_refl _, trivial⟩
  | .array items, value, h => by
    obtain ⟨values, hvalues, rfl⟩ := Option.map_eq_some_iff.mp h
    have hall := comesBack_of_items? items hvalues
    refine ⟨Nat.succ_le_succ (depthOfItems_le_iff.mpr fun v hv => (hall v hv).1), ?_⟩
    rw [IsReadable, areReadable_iff]
    exact fun v hv => (hall v hv).2
  | .object members, value, h => by
    obtain ⟨pairs, hpairs, rfl⟩ := Option.map_eq_some_iff.mp h
    have hall := comesBack_of_members? members hpairs
    have hmem : ∀ pair ∈ (OrderedMap.ofList pairs).entries, pair ∈ pairs := fun _ => OrderedMap.mem_of_mem_ofList
    refine ⟨Nat.succ_le_succ (depthOfMembers_le_iff.mpr fun pair hpair => (hall pair (hmem pair hpair)).1), ?_⟩
    rw [IsReadable, haveReadable_iff]
    exact ⟨OrderedMap.nodup_keys _, fun pair hpair => (hall pair (hmem pair hpair)).2⟩

theorem comesBack_of_items? : (items : List Tree) → {values : List Json} → Tree.items? items = some values →
    ∀ value ∈ values, ComesBack (Tree.depthOfItems items) value
  | [], values, h => by
    obtain rfl : [] = values := by simpa [Tree.items?] using h
    exact fun _ hv => absurd hv List.not_mem_nil
  | item :: items, values, h => by
    rw [Tree.items?] at h
    obtain ⟨value, hvalue, h⟩ := Option.bind_eq_some_iff.mp h
    obtain ⟨values, hvalues, h⟩ := Option.bind_eq_some_iff.mp h
    obtain rfl := Option.some.inj h
    intro v hv
    rcases List.mem_cons.mp hv with rfl | hv
    · exact (comesBack_of_value? item hvalue).imp_left fun hle => hle.trans (Nat.le_max_left ..)
    · exact (comesBack_of_items? items hvalues v hv).imp_left fun hle => hle.trans (Nat.le_max_right ..)

theorem comesBack_of_members? : (members : List (Option String × Tree)) → {pairs : List (String × Json)} →
    Tree.members? members = some pairs → ∀ pair ∈ pairs, ComesBack (Tree.depthOfMembers members) pair.2
  | [], pairs, h => by
    obtain rfl : [] = pairs := by simpa [Tree.members?] using h
    exact fun _ hv => absurd hv List.not_mem_nil
  | (name, tree) :: members, pairs, h => by
    rw [Tree.members?] at h
    obtain ⟨name, -, h⟩ := Option.bind_eq_some_iff.mp h
    obtain ⟨value, hvalue, h⟩ := Option.bind_eq_some_iff.mp h
    obtain ⟨pairs, hpairs, h⟩ := Option.bind_eq_some_iff.mp h
    obtain rfl := Option.some.inj h
    intro pair hpair
    rcases List.mem_cons.mp hpair with rfl | hpair
    · exact (comesBack_of_value? tree hvalue).imp_left fun hle => hle.trans (Nat.le_max_left ..)
    · exact (comesBack_of_members? members hpairs pair hpair).imp_left fun hle => hle.trans (Nat.le_max_right ..)

end

/-- The members of an object that was read are nested less than `maxDepth` deep, and can be read when they have been written. -/
theorem comesBack_of_read? {text : String} {members : List (String × Json)} (h : read? text = some (.object members)) :
    ∀ pair ∈ members, ComesBack (maxDepth - 1) pair.2 := by
  obtain ⟨tree, -, h⟩ := Option.bind_eq_some_iff.mp h
  obtain ⟨hdepth, hvalue⟩ := Option.ite_none_right_eq_some.mp h
  cases tree with
  | object fields =>
    obtain ⟨pairs, hpairs, hobject⟩ := Option.map_eq_some_iff.mp hvalue
    obtain rfl := Json.object.inj hobject
    intro pair hpair
    have hcomes := comesBack_of_members? fields hpairs pair (OrderedMap.mem_of_mem_ofList hpair)
    exact hcomes.imp_left fun hle => hle.trans (Nat.le_sub_one_of_lt hdepth)
  | number n =>
    rw [Tree.value?] at hvalue
    unfold Numeral.value? at hvalue
    split at hvalue <;> simp at hvalue
  | array items =>
    obtain ⟨values, -, hobject⟩ := Option.map_eq_some_iff.mp hvalue
    cases hobject
  | string s =>
    obtain ⟨s', -, hobject⟩ := Option.map_eq_some_iff.mp hvalue
    cases hobject
  | null | bool => simp [Tree.value?] at hvalue

end Phrasebook.Json
