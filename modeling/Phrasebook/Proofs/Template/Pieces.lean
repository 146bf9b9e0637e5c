import Phrasebook.Proofs.Template.Segments

/-!
# The parts of a template

Two readers cut a template: `pieces` for filling it and `segments` for taking a filled text apart. They agree on a template
that refers to no other message (`flatMap_pieces`); in a reference, `segments` takes the names for its own.
-/

namespace Phrasebook.Template

open Text

variable {s rest : List Char} {f : String → List Char}

/-- Does the part stand for another message? -/
def isReference : Piece → Bool
  | .reference _ => true
  | _ => false

/-- No part of the template stands for another message. -/
def NoReference (s : List Char) : Prop := ∀ piece ∈ pieces s, isReference piece = false

instance (s : List Char) : Decidable (NoReference s) := List.decidableBAll _ _

/-- What stands for a part where `f` says what stands for a name. -/
def substituted (f : String → List Char) : Piece → List Char
  | .name n => f n
  | piece => piece.written

/-- Where text stands for itself, a character in front of the parts stands in front of what is put for them. -/
theorem flatMap_consPiece {put : Piece → List Char} (hput : ∀ t, put (.text t) = t) (c : Char) (parts : List Piece) :
    (consPiece c parts).flatMap put = c :: parts.flatMap put := by
  unfold consPiece
  split <;> simp [hput]

/-- A character of text in front does not change which references there are. -/
theorem mem_consPiece {piece : Piece} (c : Char) {parts : List Piece} (h : piece ∈ parts) (hp : isReference piece = true) :
    piece ∈ consPiece c parts := by
  unfold consPiece
  split
  · rcases List.mem_cons.mp h with rfl | h
    · cases hp
    · exact List.mem_cons_of_mem _ h
  · exact List.mem_cons_of_mem _ h

theorem name_mem_of_consPiece {n : String} {c : Char} {parts : List Piece} (h : Piece.name n ∈ consPiece c parts) :
    Piece.name n ∈ parts := by
  unfold consPiece at h
  split at h
  · rcases List.mem_cons.mp h with h | h
    · cases h
    · exact List.mem_cons_of_mem _ h
  · rcases List.mem_cons.mp h with h | h
    · cases h
    · exact h

theorem NoReference.of_consPiece {c : Char} {parts : List Piece}
    (h : ∀ piece ∈ consPiece c parts, isReference piece = false) : ∀ piece ∈ parts, isReference piece = false := by
  intro piece hpiece
  cases hp : isReference piece with
  | false => rfl
  | true => rw [← hp, h piece (mem_consPiece c hpiece hp)]

/-- A placeholder that is no reference is a name between braces. -/
theorem readName?_of_readPlaceholder? {placeholder : Read Piece s.length} (h : readPlaceholder? s = some placeholder)
    (hp : isReference placeholder.value = false) :
    ∃ name, readName? s = some name ∧ placeholder.value = .name name.value ∧ placeholder.rest = name.rest := by
  unfold readPlaceholder? at h
  split at h
  · simp only [Option.bind_eq_bind, Option.bind_eq_some_iff] at h
    obtain ⟨id, -, h⟩ := h
    split at h
    · cases h
    · obtain rfl := Option.some.inj h
      cases hp
  · simp only [Option.bind_eq_bind, Option.bind_eq_some_iff] at h
    obtain ⟨name, hname, h⟩ := h
    obtain rfl := Option.some.inj h
    exact ⟨name, hname, rfl, rfl⟩

/-- Where no placeholder is read, no name is. -/
theorem readName?_eq_none (h : readPlaceholder? s = none) : readName? s = none := by
  unfold readPlaceholder? at h
  split at h
  · next rest =>
    -- a name does not begin with an at sign
    rw [readName?]
    rfl
  · cases hname : readName? s with
    | none => rfl
    | some name =>
      rw [hname] at h
      cases h

/-- Filling the parts of a template without references is filling its names. -/
theorem flatMap_pieces (h : NoReference s) : (pieces s).flatMap (substituted f) = fillNames f s := by
  unfold NoReference at h
  fun_induction pieces s with
  | case1 => rw [fillNames_nil]; rfl
  | case2 rest placeholder hplaceholder ih =>
    obtain ⟨name, hname, hvalue, hrest⟩ := readName?_of_readPlaceholder? hplaceholder (h _ List.mem_cons_self)
    rw [List.flatMap_cons, ih fun piece hpiece => h piece (List.mem_cons_of_mem _ hpiece), eq_bracedName_of_readName? hname,
      fillNames_bracedName (isName_of_readName? hname), hvalue, hrest]
    rfl
  | case3 rest hnone ih =>
    rw [flatMap_consPiece fun _ => rfl, ih (NoReference.of_consPiece h), fillNames_brace (readName?_eq_none hnone)]
  | case4 c rest hc ih => rw [flatMap_consPiece fun _ => rfl, ih (NoReference.of_consPiece h), fillNames_cons hc]

/-- The names of a template without references are the names that stand between its texts. -/
theorem mem_named_of_mem_pieces (h : NoReference s) {n : String} (hn : Piece.name n ∈ pieces s) :
    n ∈ (segments s).named.map Prod.fst := by
  unfold NoReference at h
  fun_induction pieces s with
  | case1 => cases hn
  | case2 rest placeholder hplaceholder ih =>
    obtain ⟨name, hname, hvalue, hrest⟩ := readName?_of_readPlaceholder? hplaceholder (h _ List.mem_cons_self)
    rw [eq_bracedName_of_readName? hname, segments_bracedName (isName_of_readName? hname), List.map_cons]
    rcases List.mem_cons.mp hn with heq | hn
    · rw [hvalue] at heq
      obtain rfl := Piece.name.inj heq
      exact List.mem_cons_self
    · rw [hrest] at ih
      exact List.mem_cons_of_mem _ (ih (fun piece hpiece => h piece (List.mem_cons_of_mem _ (hrest ▸ hpiece))) (hrest ▸ hn))
  | case3 rest hnone ih =>
    rw [segments_brace (readName?_eq_none hnone)]
    exact ih (NoReference.of_consPiece h) (name_mem_of_consPiece hn)
  | case4 c rest hc ih =>
    rw [segments_cons hc]
    exact ih (NoReference.of_consPiece h) (name_mem_of_consPiece hn)

/-- A template without apostrophes has no references. -/
theorem noReference_of_not_mem (h : '\'' ∉ s) : NoReference s := by
  intro piece hpiece
  cases piece with
  | text _ => rfl
  | name _ => rfl
  | reference id =>
    exfalso
    apply h
    rw [← written_pieces s]
    exact List.mem_flatMap.mpr ⟨_, hpiece, by simp [Piece.written]⟩

end Phrasebook.Template
