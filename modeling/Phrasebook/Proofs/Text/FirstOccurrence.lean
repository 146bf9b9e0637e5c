import Phrasebook.Text.Basic

/-!
# First occurrences

`breakOn?` cuts a text at the first occurrence of another one: it finds an occurrence whenever there is one
(`exists_breakOn?`), and none stands before the one it finds (`length_le_of_breakOn?`). A text that occurs behind `v` but
not earlier is therefore found right behind `v`, whatever follows (`breakOn?_append`).
-/

namespace Phrasebook.Text

variable {needle s v : List Char}

/-- A text begins with another one exactly where `afterPrefix?` finds the rest. -/
theorem afterPrefix?_eq_none_iff : afterPrefix? needle s = none ↔ ¬needle <+: s := by
  constructor
  · rintro h ⟨rest, rfl⟩
    rw [afterPrefix?_eq_some_iff.mpr rfl] at h
    cases h
  · intro h
    cases hs : afterPrefix? needle s with
    | none => rfl
    | some rest => exact absurd ⟨rest, (afterPrefix?_eq_some_iff.mp hs).symm⟩ h

/-- A text that occurs is found. -/
theorem exists_breakOn? (needle before after : List Char) :
    ∃ found, breakOn? needle (before ++ (needle ++ after)) = some found := by
  induction before with
  | nil =>
    rw [List.nil_append]
    have h : afterPrefix? needle (needle ++ after) = some after := afterPrefix?_eq_some_iff.mpr rfl
    cases hs : needle ++ after with
    | nil =>
      rw [hs] at h
      exact ⟨([], after), by rw [breakOn?, h]; rfl⟩
    | cons c rest =>
      rw [hs] at h
      exact ⟨([], after), by rw [breakOn?, h]⟩
  | cons c before ih =>
    obtain ⟨found, hfound⟩ := ih
    rw [List.cons_append, breakOn?]
    split
    · exact ⟨_, rfl⟩
    · rw [hfound]
      exact ⟨_, rfl⟩

/-- No occurrence stands before the one that is found. -/
theorem length_le_of_breakOn? {found : List Char × List Char} (h : breakOn? needle s = some found)
    {before after : List Char} (hs : s = before ++ (needle ++ after)) : found.1.length ≤ before.length := by
  induction s generalizing found before with
  | nil =>
    rw [breakOn?] at h
    obtain ⟨rest, -, rfl⟩ := Option.map_eq_some_iff.mp h
    exact Nat.zero_le _
  | cons c s ih =>
    rw [breakOn?] at h
    split at h
    · obtain rfl := Option.some.inj h
      exact Nat.zero_le _
    · next hnone =>
      obtain ⟨⟨first, rest⟩, hrest, rfl⟩ := Option.map_eq_some_iff.mp h
      cases before with
      | nil =>
        -- here the text itself begins with the needle, which `afterPrefix?` has denied
        exact absurd ⟨after, hs.symm⟩ (afterPrefix?_eq_none_iff.mp hnone)
      | cons b before =>
        exact Nat.succ_le_succ (ih hrest (List.cons.inj hs).2)

/-- A text that stands at the front is found there. -/
theorem breakOn?_of_prefix (after : List Char) : breakOn? needle (needle ++ after) = some ([], after) := by
  obtain ⟨⟨before, rest⟩, h⟩ := exists_breakOn? needle [] after
  rw [List.nil_append] at h
  have hle : before.length ≤ ([] : List Char).length := length_le_of_breakOn? h (List.nil_append _).symm
  have hnil : before = [] := List.eq_nil_of_length_eq_zero (Nat.le_zero.mp hle)
  subst hnil
  have hs := eq_of_breakOn? h
  rw [List.nil_append, List.append_cancel_left_eq] at hs
  rw [h, hs]

/-- In `v` followed by the text itself, the text does not occur before the end of `v`. -/
def FirstAfter (needle v : List Char) : Prop :=
  ∀ before after, v ++ needle = before ++ (needle ++ after) → v.length ≤ before.length

/-- A text that first occurs behind `v` is found behind `v`, whatever comes after it. -/
theorem breakOn?_append (h : FirstAfter needle v) (rest : List Char) :
    breakOn? needle (v ++ (needle ++ rest)) = some (v, rest) := by
  obtain ⟨⟨before, after⟩, hfound⟩ := exists_breakOn? needle v rest
  have hs := eq_of_breakOn? hfound
  have hle := length_le_of_breakOn? hfound rfl
  -- the occurrence that is found ends no later than `v ++ needle`, so it is an occurrence there
  obtain ⟨t, ht⟩ : before ++ needle <+: v ++ needle := by
    have hfront : before ++ needle <+: v ++ (needle ++ rest) := ⟨after, by rw [hs, List.append_assoc]⟩
    have hv : v ++ needle <+: v ++ (needle ++ rest) := ⟨rest, by rw [List.append_assoc]⟩
    apply List.prefix_of_prefix_length_le hfront hv
    rw [List.length_append, List.length_append]
    exact Nat.add_le_add_right hle _
  have hge := h before t (by rw [← ht, List.append_assoc])
  obtain ⟨hv, hrest⟩ := List.append_inj hs (Nat.le_antisymm hge hle)
  rw [List.append_cancel_left_eq] at hrest
  rw [hfound, hv, hrest]

theorem firstAfter_iff : FirstAfter needle v ↔ breakOn? needle (v ++ needle) = some (v, []) := by
  constructor
  · intro h
    have hfound := breakOn?_append h []
    rwa [List.append_nil] at hfound
  · intro h before after hs
    exact length_le_of_breakOn? h hs

instance (needle v : List Char) : Decidable (FirstAfter needle v) := decidable_of_iff _ firstAfter_iff.symm

end Phrasebook.Text
