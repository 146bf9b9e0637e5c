import Mathlib.Data.List.Infix
import Phrasebook.Proofs.Message.Reading

/-!
# Where arguments stand

A part of a message is the front of its text, and the places of its arguments lie in it (`Reads.suffix`,
`Reads.between`). A head does not look past the next brace: what follows may be changed from there on
(`ReadsHead.change`), and nothing else is read in its place (`ReadsHead.unique`).
-/

namespace Phrasebook.Message

open Text Unicode

variable {p n : Bool} {q : Quoting} {c : Char} {s t t' rest : List Char} {head : Head} {part : Part}
  {places : List ArgumentPlace} {name : String}

/-! ## Heads -/

/-- Two texts begin alike, up to a character that no offset begins with. -/
def BeginAlike (t t' : List Char) : Prop :=
  ∃ (front : List Char) (d : Char), d ∉ offsetMark ∧ front ++ [d] <+: t ∧ front ++ [d] <+: t'

theorem BeginAlike.head?_eq (h : BeginAlike t t') : t.head? = t'.head? := by
  obtain ⟨front, d, -, ⟨u, rfl⟩, ⟨u', rfl⟩⟩ := h
  cases front <;> rfl

theorem BeginAlike.stops {p : Char → Bool} (h : BeginAlike t t') (hstop : Stops p t) : Stops p t' := by
  intro c hc
  exact hstop c (h.head?_eq.trans hc)

/-- One begins with the mark of an offset only if the other does. -/
theorem BeginAlike.offsetMark_prefix (h : BeginAlike t t') (hmark : offsetMark <+: t') : offsetMark <+: t := by
  obtain ⟨front, d, hd, hfront, hfront'⟩ := h
  rcases Nat.lt_or_ge front.length offsetMark.length with hlt | hge
  · -- the mark would go past the front, over a character that it does not have
    exfalso
    apply hd
    have hlength : (front ++ [d]).length ≤ offsetMark.length := by
      rw [List.length_append]
      exact hlt
    exact (List.prefix_of_prefix_length_le hfront' hmark hlength).subset (by simp)
  · have hlength : offsetMark.length ≤ (front ++ [d]).length := by
      rw [List.length_append]
      omega
    exact (List.prefix_of_prefix_length_le hmark hfront' hlength).trans hfront

/-- A head may be followed by anything else; only a plural looks at how this begins. -/
theorem ReadsHead.change (h : ReadsHead head s t) : ∃ a, a ≠ [] ∧ s = a ++ t ∧ ∀ t',
    (∀ name offset, head = .plural name offset → BeginAlike t t') → ReadsHead head (a ++ t') t' := by
  cases h with
  | @argument name b₁ b₂ _ hname h₁ h₂ =>
    refine ⟨b₁ ++ (name.toList ++ (b₂ ++ ['}'])), by simp, by simp, fun t' _ => ?_⟩
    have hread : ReadsHead (.argument name) (b₁ ++ (name.toList ++ (b₂ ++ '}' :: t'))) t' := .argument hname h₁ h₂
    simpa using hread
  | @number name a style _ ha hstyle =>
    refine ⟨a ++ (style ++ ['}']), by simp, by simp, fun t' _ => ?_⟩
    have hread : ReadsHead (.number name) (a ++ (style ++ '}' :: t')) t' := .number ha hstyle
    simpa using hread
  | @plural name a b _ ha hb hblank hmark =>
    refine ⟨a ++ ',' :: b, by simp, by simp, fun t' halike => ?_⟩
    replace halike := halike _ _ rfl
    have hread : ReadsHead (.plural name (Number.zero false)) (a ++ ',' :: (b ++ t')) t' :=
      .plural ha hb (halike.stops hblank) fun h => hmark (halike.offsetMark_prefix h)
    simpa using hread
  | @offset name token offset a b b' _ ha hb hb' htoken hoffset hstop =>
    refine ⟨a ++ ',' :: (b ++ (offsetMark ++ (b' ++ token.toList))), by simp, by simp, fun t' halike => ?_⟩
    replace halike := halike _ _ rfl
    have hread : ReadsHead (.plural name offset) (a ++ ',' :: (b ++ (offsetMark ++ (b' ++ (token.toList ++ t'))))) t' :=
      .offset ha hb hb' htoken hoffset (halike.stops hstop)
    simpa using hread
  | @select name a _ ha =>
    refine ⟨a ++ [','], by simp, by simp, fun t' _ => ?_⟩
    have hread : ReadsHead (.select name) (a ++ ',' :: t') t' := .select ha
    simpa using hread

/-- A head is the front of its text. -/
theorem ReadsHead.suffix (h : ReadsHead head s t) : t <:+ s := by
  obtain ⟨a, -, rfl, -⟩ := h.change
  exact List.suffix_append a t

/-- Two heads of one text are the same. -/
theorem ReadsHead.unique {head' : Head} (h : ReadsHead head s t) (h' : ReadsHead head' s t') : head = head' ∧ t = t' := by
  have hread : Yields (readHead 0 s) head t := yields_readHead_iff.mpr h
  exact hread.unique (yields_readHead_iff.mpr h')

/-! ## Messages -/

/-- A part of a message is the front of its text. -/
theorem Reads.suffix (h : Reads part s rest places) : rest <:+ s := by
  induction h with
  | done => exact List.suffix_rfl
  | text _ _ ih => exact ih.trans (List.suffix_cons ..)
  | closed _ => exact List.suffix_rfl
  | pound _ _ ih => exact ih.trans (List.suffix_cons ..)
  | argument _ _ _ ihnode ih => exact ih.trans (ihnode.trans (List.suffix_cons ..))
  | value hhead => exact hhead.suffix
  | number hhead => exact hhead.suffix
  | plural hhead _ _ ih => exact ih.trans hhead.suffix
  | select hhead _ _ ih => exact ih.trans hhead.suffix
  | pluralEnd _ => exact (List.suffix_cons ..).trans (List.suffix_append ..)
  | pluralBranch _ _ _ _ ihnodes ih =>
    exact ih.trans ((List.suffix_cons ..).trans (ihnodes.trans (List.suffix_append ..)))
  | selectEnd _ => exact (List.suffix_cons ..).trans (List.suffix_append ..)
  | selectBranch _ _ _ ihnodes ih =>
    exact ih.trans ((List.suffix_cons ..).trans (ihnodes.trans (List.suffix_append ..)))

/-- The place lies in the front of a text that something leaves. -/
def ArgumentPlace.Between (place : ArgumentPlace) (s rest : List Char) : Prop :=
  rest.length ≤ place.unread.length ∧ place.unread.length < s.length

/-- A place in a part lies in all that the part belongs to. -/
theorem ArgumentPlace.Between.mono {place : ArgumentPlace} {u v : List Char} (h : place.Between s rest) (hs : s <:+ u)
    (hv : v <:+ rest) : place.Between u v :=
  ⟨Nat.le_trans hv.length_le h.1, Nat.lt_of_lt_of_le h.2 hs.length_le⟩

/-- Arguments begin in the part that is read. -/
theorem Reads.between (h : Reads part s rest places) : ∀ place ∈ places, place.Between s rest := by
  induction h with
  | done => simp
  | closed _ => simp
  | value _ => simp
  | number _ => simp
  | pluralEnd _ => simp
  | selectEnd _ => simp
  | text _ _ ih => exact fun place hplace => (ih place hplace).mono (List.suffix_cons ..) List.suffix_rfl
  | pound _ _ ih => exact fun place hplace => (ih place hplace).mono (List.suffix_cons ..) List.suffix_rfl
  | argument _ hnode hnodes ihnode ih =>
    intro place hplace
    rcases List.mem_cons.mp hplace with rfl | hplace
    · exact ⟨(hnodes.suffix.trans hnode.suffix).length_le, Nat.lt_succ_self _⟩
    · rcases List.mem_append.mp hplace with hplace | hplace
      · exact (ihnode place hplace).mono (List.suffix_cons ..) hnodes.suffix
      · exact (ih place hplace).mono (hnode.suffix.trans (List.suffix_cons ..)) List.suffix_rfl
  | plural hhead _ _ ih => exact fun place hplace => (ih place hplace).mono hhead.suffix List.suffix_rfl
  | select hhead _ _ ih => exact fun place hplace => (ih place hplace).mono hhead.suffix List.suffix_rfl
  | pluralBranch _ _ hnodes hbranches ihnodes ih =>
    intro place hplace
    rcases List.mem_append.mp hplace with hplace | hplace
    · exact (ihnodes place hplace).mono (List.suffix_append ..) (hbranches.suffix.trans (List.suffix_cons ..))
    · exact (ih place hplace).mono ((List.suffix_cons ..).trans (hnodes.suffix.trans (List.suffix_append ..)))
        List.suffix_rfl
  | selectBranch _ hnodes hbranches ihnodes ih =>
    intro place hplace
    rcases List.mem_append.mp hplace with hplace | hplace
    · exact (ihnodes place hplace).mono (List.suffix_append ..) (hbranches.suffix.trans (List.suffix_cons ..))
    · exact (ih place hplace).mono ((List.suffix_cons ..).trans (hnodes.suffix.trans (List.suffix_append ..)))
        List.suffix_rfl

end Phrasebook.Message
