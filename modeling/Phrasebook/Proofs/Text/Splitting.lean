import Phrasebook.Text.Basic

/-!
# Pieces between separators

A text is cut at a separator into one piece more than it has separators. Which piece stands at which place is said by the
separators in front of it (`getElem?_splitAt_iff`).
-/

namespace Phrasebook.Text

variable {separator : Char} {s t piece : List Char} {n : Nat}

/-- A text with a separator in it is cut there, and on both sides by itself. -/
theorem splitAt_append (s t : List Char) : splitAt separator (s ++ separator :: t) = splitAt separator s ++ splitAt separator t := by
  induction s with
  | nil => simp [splitAt]
  | cons c s ih =>
    rw [List.cons_append, splitAt, splitAt, ih]
    split
    · rfl
    · obtain ⟨piece, pieces, h⟩ := List.exists_cons_of_ne_nil (splitAt_ne_nil separator s)
      rw [h]
      rfl

/-- A text without separators is one piece. -/
theorem splitAt_of_not_mem (h : separator ∉ s) : splitAt separator s = [s] := by
  induction s with
  | nil => rfl
  | cons c s ih =>
    rw [List.mem_cons, not_or] at h
    rw [splitAt, if_neg (Ne.symm h.1), ih h.2]

/-- No piece holds the separator. -/
theorem not_mem_of_mem_splitAt (h : piece ∈ splitAt separator s) : separator ∉ piece := by
  induction s generalizing piece with
  | nil =>
    rw [List.mem_singleton.mp h]
    exact List.not_mem_nil
  | cons c s ih =>
    obtain ⟨first, others, hs⟩ := List.exists_cons_of_ne_nil (splitAt_ne_nil separator s)
    rw [splitAt, hs] at h
    rw [hs] at ih
    split at h
    · rcases List.mem_cons.mp h with rfl | h
      · exact List.not_mem_nil
      · exact ih h
    · next hc =>
      rcases List.mem_cons.mp h with rfl | h
      · rw [List.mem_cons, not_or]
        exact ⟨Ne.symm hc, ih List.mem_cons_self⟩
      · exact ih (List.mem_cons_of_mem _ h)

/-- There is one piece more than there are separators. -/
theorem length_splitAt (separator : Char) (s : List Char) :
    (splitAt separator s).length = s.count separator + 1 := by
  fun_induction splitAt separator s with
  | case1 => rfl
  | case2 rest ih => rw [List.length_cons, ih, List.count_cons_self]
  | case3 c rest hc h => exact absurd h (splitAt_ne_nil separator rest)
  | case4 c rest hc piece pieces h ih =>
    rw [h, List.length_cons] at ih
    rw [List.length_cons, List.count_cons_of_ne hc, ih]

/-- The text between a separator or the start and a separator or the end, with `n` separators before it. -/
def IsPiece (separator : Char) (n : Nat) (piece s : List Char) : Prop :=
  ∃ before after, s = before ++ (piece ++ after) ∧ separator ∉ piece ∧ (before = [] ∨ before.getLast? = some separator) ∧
    (after = [] ∨ after.head? = some separator) ∧ before.count separator = n

/-- What is cut off as a piece has its separators in front and stands between two of them, or at an end. -/
theorem isPiece_of_getElem? (h : (splitAt separator s)[n]? = some piece) : IsPiece separator n piece s := by
  fun_induction splitAt separator s generalizing n piece with
  | case1 =>
    obtain ⟨rfl, rfl⟩ : n = 0 ∧ piece = [] := by cases n <;> simp_all
    exact ⟨[], [], rfl, List.not_mem_nil, .inl rfl, .inl rfl, rfl⟩
  | case2 rest ih =>
    cases n with
    | zero =>
      obtain rfl := Option.some.inj h
      exact ⟨[], separator :: rest, rfl, List.not_mem_nil, .inl rfl, .inr rfl, rfl⟩
    | succ n =>
      obtain ⟨before, after, rfl, hpiece, hbefore, hafter, rfl⟩ := ih h
      refine ⟨separator :: before, after, rfl, hpiece, .inr ?_, hafter, List.count_cons_self⟩
      rcases hbefore with rfl | hbefore
      · rfl
      · rw [List.getLast?_cons, hbefore, Option.getD_some]
  | case3 c rest hc hsplit => exact absurd hsplit (splitAt_ne_nil separator rest)
  | case4 c rest hc first pieces hsplit ih =>
    rw [hsplit] at ih
    cases n with
    | zero =>
      obtain rfl := Option.some.inj h
      obtain ⟨before, after, rfl, hpiece, hbefore, hafter, hcount⟩ := @ih first 0 rfl
      -- nothing stands before a piece with no separator before it
      obtain rfl : before = [] := by
        rcases hbefore with hbefore | hbefore
        · exact hbefore
        · exact absurd (List.mem_of_getLast? hbefore) (List.count_eq_zero.mp hcount)
      exact ⟨[], after, rfl, by simp [Ne.symm hc, hpiece], .inl rfl, hafter, rfl⟩
    | succ n =>
      obtain ⟨before, after, rfl, hpiece, hbefore, hafter, hcount⟩ := @ih piece (n + 1) h
      refine ⟨c :: before, after, rfl, hpiece, .inr ?_, hafter, by rw [List.count_cons_of_ne hc, hcount]⟩
      rcases hbefore with rfl | hbefore
      · cases hcount
      · rw [List.getLast?_cons, hbefore, Option.getD_some]

/-- What stands between the right separators is cut off as a piece at its place. -/
theorem IsPiece.getElem? (h : IsPiece separator n piece s) : (splitAt separator s)[n]? = some piece := by
  obtain ⟨before, after, rfl, hpiece, hbefore, hafter, rfl⟩ := h
  have hfirst : (splitAt separator (piece ++ after))[0]? = some piece := by
    rcases hafter with rfl | hafter
    · rw [List.append_nil, splitAt_of_not_mem hpiece]
      rfl
    · obtain ⟨rest, rfl⟩ := List.head?_eq_some_iff.mp hafter
      rw [splitAt_append, splitAt_of_not_mem hpiece]
      rfl
  rcases hbefore with rfl | hbefore
  · exact hfirst
  · obtain ⟨front, rfl⟩ := List.getLast?_eq_some_iff.mp hbefore
    have hcount : (front ++ [separator]).count separator = (splitAt separator front).length := by
      rw [List.count_append, List.count_singleton_self, length_splitAt]
    rw [List.append_assoc, List.singleton_append, splitAt_append, hcount, List.getElem?_append_right (Nat.le_refl _),
      Nat.sub_self, hfirst]

/-- The pieces by their places, told by the separators in the text alone. -/
theorem getElem?_splitAt_iff : (splitAt separator s)[n]? = some piece ↔ IsPiece separator n piece s :=
  ⟨isPiece_of_getElem?, IsPiece.getElem?⟩

end Phrasebook.Text
