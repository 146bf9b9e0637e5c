import Mathlib.Data.List.Infix
import Phrasebook.Proofs.Template.Segments

/-!
# Where placeholders stand

What a placeholder is does not depend on how templates are read (`IsPlaceholder`). A template is split from the left: a
placeholder is a part where it begins, and a text goes on for as long as no placeholder begins in it (`IsSplit`). Every template
has one split, its `pieces` (`isSplit_iff`). Parts whose texts have no opening braces are seen to be the split of what they make
up (`isSplit_of_standApart`).
-/

namespace Phrasebook.Template

open Text

variable {s t rest : List Char} {c : Char} {n : String} {id : List Fragment} {piece : Piece} {parts : List Piece}

/-! ## Placeholders -/

/-- The parts of an id: names between braces, and runs of other characters, which are as long as they can be. -/
def IsId : List Fragment → Prop
  | [] => True
  | .text s :: id => s ≠ [] ∧ (∀ c ∈ s, isIdChar c = true) ∧ (∀ t, id.head? ≠ some (.text t)) ∧ IsId id
  | .name n :: id => IsName n ∧ IsId id

/-- A placeholder holds a name, or an id that is not empty. -/
inductive IsPlaceholder : Piece → Prop where
  | name {n : String} (hn : IsName n) : IsPlaceholder (.name n)
  | reference {id : List Fragment} (hne : id ≠ []) (hid : IsId id) : IsPlaceholder (.reference id)

/-- The text begins with a placeholder. -/
def BeginsPlaceholder (s : List Char) : Prop := ∃ piece, IsPlaceholder piece ∧ piece.written <+: s

/-- The parts of a template: placeholders one after the other from the left, and the texts between them. A text is not empty
and ends where the next placeholder begins or where the template ends. -/
inductive IsSplit : List Char → List Piece → Prop where
  | nil : IsSplit [] []
  | placeholder {piece : Piece} {rest : List Char} {parts : List Piece} (hpiece : IsPlaceholder piece)
      (hrest : IsSplit rest parts) : IsSplit (piece.written ++ rest) (piece :: parts)
  | text {t rest : List Char} {parts : List Piece} (hne : t ≠ []) (hnext : ∀ piece ∈ parts.head?, IsPlaceholder piece)
      (hfree : ∀ u, u <:+ t → u ≠ [] → ¬BeginsPlaceholder (u ++ rest)) (hrest : IsSplit rest parts) :
      IsSplit (t ++ rest) (.text t :: parts)

/-! ## Reading ids -/

theorem isId_consFragment (hc : isIdChar c = true) (h : IsId id) : IsId (consFragment c id) := by
  unfold consFragment
  split
  · next s id =>
    obtain ⟨-, hall, hnext, hid⟩ := h
    exact ⟨List.cons_ne_nil _ _, List.forall_mem_cons.mpr ⟨hc, hall⟩, hnext, hid⟩
  · next hnext =>
    refine ⟨List.cons_ne_nil _ _, by simpa using hc, fun t ht => ?_, h⟩
    obtain ⟨id', rfl⟩ := List.head?_eq_some_iff.mp ht
    exact hnext t id' rfl

/-- What is read as an id is one. -/
theorem isId_of_readId? {read : Read (List Fragment) s.length} (h : readId? s = some read) : IsId read.value := by
  fun_induction readId? s with
  | case1 | case5 => cases h
  | case2 rest =>
    obtain ⟨closed, -, rfl⟩ := Option.map_eq_some_iff.mp h
    trivial
  | case3 rest _ ih =>
    simp only [Option.bind_eq_bind, Option.bind_eq_some_iff] at h
    obtain ⟨name, hname, id', hid, h⟩ := h
    obtain rfl := Option.some.inj h
    exact ⟨isName_of_readName? hname, ih name hid⟩
  | case4 c rest _ _ hc ih =>
    simp only [Option.bind_eq_bind, Option.bind_eq_some_iff] at h
    obtain ⟨id', hid, h⟩ := h
    obtain rfl := Option.some.inj h
    exact isId_consFragment hc (ih hid)

/-- A reader of ids takes this id from the text and leaves the rest. -/
def ReadsId (s : List Char) (id : List Fragment) (rest : List Char) : Prop :=
  ∃ read, readId? s = some read ∧ read.value = id ∧ read.rest = rest

theorem readsId_nil (rest : List Char) : ReadsId ('\'' :: '}' :: rest) [] rest := by
  obtain ⟨below, hclosed⟩ := readChar?_cons '}' (rfl : '}' :: rest = '}' :: rest)
  have hread : readId? ('\'' :: '}' :: rest) = some (Read.map (fun _ => []) ⟨(), rest, below⟩).afterOne := by
    rw [readId?, if_pos rfl, hclosed, Option.map_some]
  exact ⟨_, hread, rfl, rfl⟩

/-- A name between braces is read in front of an id. -/
theorem ReadsId.name (hn : IsName n) (h : ReadsId s id rest) : ReadsId (bracedName n ++ s) (.name n :: id) rest := by
  obtain ⟨⟨value, after, below⟩, hname, hvalue, hrest⟩ := readName?_append hn s
  obtain rfl : value = n := hvalue
  obtain rfl : after = s := hrest
  obtain ⟨read, hread, rfl, rfl⟩ := h
  have hbraced : readId? ('{' :: (value.toList ++ '}' :: after)) =
      some (Read.andThen ⟨value, after, below⟩ (read.map (.name value :: ·)).afterOne).afterOne := by
    rw [readId?, if_neg (by decide), if_pos rfl, hname]
    simp only [Option.bind_eq_bind, Option.bind_some, hread]
    rfl
  rw [bracedName, List.cons_append, List.append_assoc]
  exact ⟨_, hbraced, rfl, rfl⟩

/-- A character is read in front of an id. -/
theorem ReadsId.char (hc : isIdChar c = true) (h : ReadsId s id rest) : ReadsId (c :: s) (consFragment c id) rest := by
  obtain ⟨read, hread, rfl, rfl⟩ := h
  have hquote : c ≠ '\'' := by rintro rfl; revert hc; decide
  have hbrace : c ≠ '{' := by rintro rfl; revert hc; decide
  have hchar : readId? (c :: s) = some (read.map (consFragment c)).afterOne := by
    rw [readId?, if_neg hquote, if_neg hbrace, if_pos hc, hread]
    rfl
  exact ⟨_, hchar, rfl, rfl⟩

/-- A run of characters is read in front of an id that begins with a name. -/
theorem ReadsId.text (hne : t ≠ []) (hall : ∀ c ∈ t, isIdChar c = true) (hnext : ∀ u, id.head? ≠ some (.text u))
    (h : ReadsId s id rest) : ReadsId (t ++ s) (.text t :: id) rest := by
  induction t with
  | nil => exact absurd rfl hne
  | cons c t ih =>
    obtain ⟨hc, hall⟩ := List.forall_mem_cons.mp hall
    by_cases ht : t = []
    · subst ht
      have hread := h.char hc
      rwa [consFragment] at hread
      rintro u id' rfl
      exact hnext u rfl
    · exact (ih ht hall).char hc

/-- An id is read up to the apostrophe and the brace that close it. -/
theorem readsId_written (rest : List Char) : (id : List Fragment) → IsId id →
    ReadsId (id.flatMap Fragment.written ++ '\'' :: '}' :: rest) id rest
  | [], _ => readsId_nil rest
  | .text t :: id, h => by
    obtain ⟨hne, hall, hnext, hid⟩ := h
    rw [List.flatMap_cons, List.append_assoc]
    exact (readsId_written rest id hid).text hne hall hnext
  | .name n :: id, h => by
    rw [List.flatMap_cons, List.append_assoc]
    exact (readsId_written rest id h.2).name h.1

/-! ## Reading placeholders -/

/-- What is read as a placeholder is one. -/
theorem isPlaceholder_of_readPlaceholder? {read : Read Piece s.length} (h : readPlaceholder? s = some read) :
    IsPlaceholder read.value := by
  unfold readPlaceholder? at h
  split at h
  · simp only [Option.bind_eq_bind, Option.bind_eq_some_iff] at h
    obtain ⟨id, hid, h⟩ := h
    split at h
    · cases h
    · next hne =>
      obtain rfl := Option.some.inj h
      exact .reference (fun hnil => hne (List.isEmpty_iff.mpr hnil)) (isId_of_readId? hid)
  · simp only [Option.bind_eq_bind, Option.bind_eq_some_iff] at h
    obtain ⟨name, hname, h⟩ := h
    obtain rfl := Option.some.inj h
    exact .name (isName_of_readName? hname)

/-- A name is read as a placeholder. -/
theorem readPlaceholder?_of_readName? {name : Read String s.length} (h : readName? s = some name) :
    readPlaceholder? s = some (name.map .name) := by
  unfold readPlaceholder?
  split
  · -- a name does not begin with an at sign
    cases h
  · rw [h]
    rfl

/-- A placeholder is read behind its opening brace. -/
theorem readPlaceholder?_written (h : IsPlaceholder piece) (rest : List Char) :
    ∃ s read, piece.written ++ rest = '{' :: s ∧ readPlaceholder? s = some read ∧ read.value = piece ∧ read.rest = rest := by
  cases h with
  | @name n hn =>
    obtain ⟨name, hname, hvalue, hrest⟩ := readName?_append hn rest
    exact ⟨n.toList ++ '}' :: rest, name.map .name, by simp [Piece.written, bracedName], readPlaceholder?_of_readName? hname,
      congrArg _ hvalue, hrest⟩
  | @reference id hne hid =>
    obtain ⟨read, hread, hvalue, hrest⟩ := readsId_written rest id hid
    refine ⟨'@' :: '\'' :: (id.flatMap Fragment.written ++ '\'' :: '}' :: rest), (read.map .reference).afterOne.afterOne,
      by simp [Piece.written], ?_, congrArg _ hvalue, hrest⟩
    unfold readPlaceholder?
    simp only [Option.bind_eq_bind, hread, Option.bind_some, hvalue, List.isEmpty_iff, if_neg hne]
    rfl

/-- Where no placeholder is read behind a brace, none begins. -/
theorem not_beginsPlaceholder_brace (h : readPlaceholder? s = none) : ¬BeginsPlaceholder ('{' :: s) := by
  rintro ⟨piece, hpiece, rest, hs⟩
  obtain ⟨t, read, ht, hread, -⟩ := readPlaceholder?_written hpiece rest
  obtain rfl : t = s := (List.cons.inj (ht.symm.trans hs)).2
  rw [h] at hread
  cases hread

/-- A placeholder begins with a brace. -/
theorem not_beginsPlaceholder_cons (hc : c ≠ '{') : ¬BeginsPlaceholder (c :: s) := by
  rintro ⟨piece, hpiece, rest, hs⟩
  obtain ⟨t, -, ht, -⟩ := readPlaceholder?_written hpiece rest
  exact hc (List.cons.inj (ht.symm.trans hs)).1.symm

/-! ## Cutting, one step -/

/-- A placeholder is a part. -/
theorem pieces_written (h : IsPlaceholder piece) (rest : List Char) :
    pieces (piece.written ++ rest) = piece :: pieces rest := by
  obtain ⟨s, read, hs, hread, rfl, rfl⟩ := readPlaceholder?_written h rest
  rw [hs, pieces, if_pos rfl, hread]

/-- A character in front of which no placeholder begins is text. -/
theorem pieces_cons (h : ¬BeginsPlaceholder (c :: rest)) : pieces (c :: rest) = consPiece c (pieces rest) := by
  rw [pieces]
  split
  · next hc =>
    split
    · next read hread =>
      refine absurd ⟨_, isPlaceholder_of_readPlaceholder? hread, read.rest, ?_⟩ h
      rw [hc, eq_of_readPlaceholder? hread]
    · rfl
  · rfl

theorem consPiece_of_isPlaceholder (h : ∀ piece ∈ parts.head?, IsPlaceholder piece) :
    consPiece c parts = .text [c] :: parts := by
  unfold consPiece
  split
  · nomatch h _ rfl
  · rfl

/-- A text in which no placeholder begins is a part if one follows it. -/
theorem pieces_append (hne : t ≠ []) (hnext : ∀ piece ∈ (pieces rest).head?, IsPlaceholder piece)
    (hfree : ∀ u, u <:+ t → u ≠ [] → ¬BeginsPlaceholder (u ++ rest)) : pieces (t ++ rest) = .text t :: pieces rest := by
  induction t with
  | nil => exact absurd rfl hne
  | cons c t ih =>
    have hbegin : ¬BeginsPlaceholder (c :: (t ++ rest)) := hfree _ List.suffix_rfl hne
    rw [List.cons_append, pieces_cons hbegin]
    by_cases ht : t = []
    · rw [ht, List.nil_append, consPiece_of_isPlaceholder hnext]
    · rw [ih ht fun u hu => hfree u (hu.trans (List.suffix_cons c t)), consPiece]

/-! ## Splits -/

/-- A character in front of which no placeholder begins goes to the text in front. -/
theorem IsSplit.consPiece (hfree : ¬BeginsPlaceholder (c :: s)) (h : IsSplit s parts) :
    IsSplit (c :: s) (consPiece c parts) := by
  have hsingle : ∀ u, u <:+ [c] → u ≠ [] → ¬BeginsPlaceholder (u ++ s) := by
    intro u hu hne
    rcases List.suffix_cons_iff.mp hu with rfl | hu
    · exact hfree
    · exact absurd (List.suffix_nil.mp hu) hne
  cases h with
  | nil => exact .text (List.cons_ne_nil c []) (by simp) hsingle .nil
  | @placeholder piece rest parts hpiece hrest =>
    have hnext : ∀ other ∈ (piece :: parts).head?, IsPlaceholder other := by simpa using hpiece
    rw [consPiece_of_isPlaceholder hnext]
    exact .text (List.cons_ne_nil c []) hnext hsingle (.placeholder hpiece hrest)
  | @text t rest parts hne hnext hinner hrest =>
    refine .text (List.cons_ne_nil c t) hnext (fun u hu hu' => ?_) hrest
    rcases List.suffix_cons_iff.mp hu with rfl | hu
    · exact hfree
    · exact hinner u hu hu'

/-- The parts of a template split it. -/
theorem isSplit_pieces (s : List Char) : IsSplit s (pieces s) := by
  fun_induction pieces s with
  | case1 => exact .nil
  | case2 rest read hread ih =>
    rw [eq_of_readPlaceholder? hread]
    exact .placeholder (isPlaceholder_of_readPlaceholder? hread) ih
  | case3 rest hnone ih => exact ih.consPiece (not_beginsPlaceholder_brace hnone)
  | case4 c rest hc ih => exact ih.consPiece (not_beginsPlaceholder_cons hc)

/-- A template has one split, its parts. -/
theorem isSplit_iff : IsSplit s parts ↔ parts = pieces s := by
  refine ⟨fun h => ?_, fun h => h ▸ isSplit_pieces s⟩
  induction h with
  | nil => rw [pieces]
  | placeholder hpiece _ ih => rw [pieces_written hpiece, ih]
  | text hne hnext hfree _ ih => rw [pieces_append hne (ih ▸ hnext) hfree, ih]

/-! ## Templates with plain texts -/

/-- The parts are placeholders and texts without opening braces, and no two of the texts are adjacent. -/
def StandApart : List Piece → Prop
  | [] => True
  | .text t :: parts => (t ≠ [] ∧ '{' ∉ t) ∧ parts.head?.all Piece.isPlaceholder = true ∧ StandApart parts
  | .name n :: parts => IsName n ∧ StandApart parts
  | .reference id :: parts => (id ≠ [] ∧ IsId id) ∧ StandApart parts

/-- What is said to be a placeholder behind a text is one. -/
theorem StandApart.isPlaceholder_head (h : StandApart parts) (hhead : parts.head?.all Piece.isPlaceholder = true) :
    ∀ piece ∈ parts.head?, IsPlaceholder piece := by
  rintro piece hpiece
  obtain ⟨others, rfl⟩ := List.head?_eq_some_iff.mp hpiece
  cases piece with
  | text t => cases hhead
  | name n => exact .name h.1
  | reference id => exact .reference h.1.1 h.1.2

/-- No placeholder begins in a text without opening braces, so such parts are those of the template that they make up. -/
theorem isSplit_of_standApart (hs : s = written parts) (h : StandApart parts) : IsSplit s parts := by
  subst hs
  induction parts with
  | nil => exact .nil
  | cons piece parts ih =>
    rw [written, List.flatMap_cons]
    cases piece with
    | text t =>
      obtain ⟨⟨hne, hbrace⟩, hhead, hparts⟩ := h
      refine .text hne (hparts.isPlaceholder_head hhead) (fun u hu hne => ?_) (ih hparts)
      obtain ⟨c, u, rfl⟩ := List.exists_cons_of_ne_nil hne
      refine not_beginsPlaceholder_cons ?_
      rintro rfl
      exact hbrace (hu.subset List.mem_cons_self)
    | name n => exact .placeholder (.name h.1) (ih h.2)
    | reference id => exact .placeholder (.reference h.1.1 h.1.2) (ih h.2)

end Phrasebook.Template
