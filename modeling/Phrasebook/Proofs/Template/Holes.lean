import Phrasebook.Proofs.Template.Segments

/-!
# Where values are put

A template is filled from the left, character by character: where a name with a value begins between its braces the value is
put instead (`fillNames_of_hole`), and everything else stays as it is (`fillNames_cons_of_not_hole`).
-/

namespace Phrasebook.Template

open Text

variable {values : Variables} {c : Char} {s rest a : List Char}

/-- A value is put where the text begins. -/
def IsHole (values : Variables) (s : List Char) : Prop :=
  ∃ name value rest, IsName name ∧ values.get? name = some value ∧ s = bracedName name ++ rest

/-- The value is put for the name and its braces. -/
theorem fillNames_of_hole {name : String} {value : Value} (hname : IsName name) (hvalue : values.get? name = some value) :
    fillNames (shown values) (bracedName name ++ rest) = value.display.toList ++ fillNames (shown values) rest := by
  rw [fillNames_bracedName hname, shown, hvalue]

/-- A character where no value is put stays. -/
theorem fillNames_cons_of_not_hole (h : ¬IsHole values (c :: s)) :
    fillNames (shown values) (c :: s) = c :: fillNames (shown values) s := by
  by_cases hc : c = '{'
  · subst hc
    cases hread : readName? s with
    | none => exact fillNames_brace hread
    | some read =>
      obtain ⟨name, rest, hname, rfl⟩ : ∃ name rest, IsName name ∧ s = name.toList ++ '}' :: rest :=
        ⟨_, _, isName_of_readName? hread, eq_of_readName? hread⟩
      have hbraced : '{' :: (name.toList ++ '}' :: rest) = bracedName name ++ rest := by simp [bracedName]
      cases hvalue : values.get? name with
      | some value => exact absurd ⟨name, value, rest, hname, hvalue, hbraced⟩ h
      | none =>
        -- a name without a value is put back
        have hinner : '{' ∉ name.toList := hname.not_mem (by decide)
        rw [hbraced, fillNames_bracedName hname, fillNames_append hinner, fillNames_cons (by decide), shown, hvalue]
        simp [bracedName]
  · exact fillNames_cons hc

/-- Text in which no value is put stays. -/
theorem fillNames_append_of_no_hole (h : ∀ u, u <:+ a ++ rest → rest.length < u.length → ¬IsHole values u) :
    fillNames (shown values) (a ++ rest) = a ++ fillNames (shown values) rest := by
  induction a with
  | nil => rfl
  | cons c a ih =>
    rw [List.cons_append, fillNames_cons_of_not_hole, ih]
    · rfl
    · intro u hu
      exact h u (hu.trans (List.suffix_cons ..))
    · apply h _ List.suffix_rfl
      simp only [List.cons_append, List.length_cons, List.length_append]
      omega

end Phrasebook.Template
