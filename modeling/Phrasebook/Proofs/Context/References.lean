import Mathlib.Data.List.Nodup
import Phrasebook.Proofs.Context.Filling

/-!
# References between messages

A reference is replaced by the message it names as this message is formatted by itself, without values, in the same
locale. The chain that guards against endless resolving does not show as long as no path of references comes back to one of
its messages and none is too long (`value_resolve`).
-/

namespace Phrasebook.Context

open Template

variable {c : Context} {descriptor : Descriptor} {locale fallback : Option String} {values : Variables} {id : String}

/-- The text that is filled for a descriptor: its template, or else its id. -/
def body (c : Context) (locale : Option String) (descriptor : Descriptor) : String :=
  (c.templateOf locale descriptor).getD descriptor.id

/-- The id that a reference in a text stands for. -/
def referenced? (values : Variables) : Piece → Option String
  | .reference id => some (referencedId values id).value
  | _ => none

/-- The ids that the references in a text stand for. -/
def references (values : Variables) (text : String) : List String :=
  (pieces text.toList).filterMap (referenced? values)

/-- The path leads from the message of the id through references of each message to the next one. -/
inductive ReferencePath (c : Context) (locale : Option String) : String → List String → Prop where
  | last {id : String} : ReferencePath c locale id [id]
  | step {id next : String} {path : List String} (hnext : next ∈ references .empty (c.body locale ⟨id, none⟩))
      (hpath : ReferencePath c locale next path) : ReferencePath c locale id (id :: path)

/-- The message of an id by itself: what stands for a reference to it. -/
def messageOf (c : Context) (locale : Option String) (id : String) : String :=
  (c.formatMessage ⟨id, none⟩ (some .empty) locale none).value

/-! ## Only the references of a text matter -/

section Congruence

variable {r r' : List Fragment → Logged (Option String)}
  {resolve resolve' : Variables → List Fragment → Logged (Option String)}

/-- Two ways to resolve fill alike if they agree on the references there are. -/
theorem value_fillPieces_congr {parts : List Piece} (h : ∀ id, .reference id ∈ parts → (r id).value = (r' id).value) :
    (fillPieces values r parts).value = (fillPieces values r' parts).value := by
  induction parts with
  | nil => rfl
  | cons part parts ih =>
    have hpart : (fillPiece? values r part).value = (fillPiece? values r' part).value := by
      cases part with
      | text _ => rfl
      | name _ => rfl
      | reference id => exact h id List.mem_cons_self
    simp only [fillPieces, Logged.value_bind, Logged.value_pure, hpart,
      ih fun id hid => h id (List.mem_cons_of_mem _ hid)]

theorem value_fill_congr {text : String}
    (h : ∀ id, .reference id ∈ pieces text.toList → (resolve values id).value = (resolve' values id).value) :
    (fill text (some values) fallback resolve).value = (fill text (some values) fallback resolve').value := by
  unfold fill
  simp only
  split
  · rfl
  · simp only [Logged.value_bind, value_fillPieces_congr h]

theorem value_formatWith_congr (h : ∀ reference, .reference reference ∈ pieces (c.body locale descriptor).toList →
      (resolve values reference).value = (resolve' values reference).value) :
    (c.formatWith locale descriptor (some values) fallback resolve).value =
      (c.formatWith locale descriptor (some values) fallback resolve').value := by
  unfold body at h
  unfold formatWith
  cases htemplate : c.templateOf locale descriptor with
  | some template =>
    rw [htemplate, Option.getD_some] at h
    simp only [Logged.value_bind, value_fill_congr h]
  | none =>
    rw [htemplate, Option.getD_none] at h
    cases fallback with
    | some text => rfl
    | none => simp only [Logged.value_bind, value_fill_congr h]

end Congruence

/-! ## Resolving -/

/-- The chain of a reference does not show as long as the paths of references from its message neither meet the chain nor
exceed what remains; by induction on a bound for the length of these paths. -/
theorem value_resolve (k : Nat) {remaining : Nat} {chain : List String} {reference : List Fragment}
    (hpaths : ∀ path, ReferencePath c locale (referencedId values reference).value path →
      (chain ++ path).Nodup ∧ path.length ≤ k) (hk : k ≤ remaining) (hremaining : remaining ≤ maxDepth) :
    (c.resolve locale remaining chain values reference).value =
      some (c.messageOf locale (referencedId values reference).value) := by
  induction k generalizing remaining chain values reference with
  | zero =>
    have hlength := (hpaths _ .last).2
    simp at hlength
  | succ k ih =>
    obtain ⟨remaining, rfl⟩ : ∃ n, remaining = n + 1 := ⟨remaining - 1, by omega⟩
    have hchain : (referencedId values reference).value ∉ chain := by
      intro hmem
      exact (List.nodup_append.mp (hpaths _ .last).1).2.2 _ hmem _ List.mem_cons_self rfl
    rw [resolve]
    simp only [Logged.value_bind, if_neg hchain, Logged.value_map, messageOf, formatMessage]
    congr 1
    apply value_formatWith_congr
    intro inner hinner
    have hstep : ∀ path, ReferencePath c locale (referencedId .empty inner).value path →
        ReferencePath c locale (referencedId values reference).value ((referencedId values reference).value :: path) := by
      intro path hpath
      exact .step (List.mem_filterMap.mpr ⟨_, hinner, rfl⟩) hpath
    -- inside the other message and in this message by itself, chains and what remains differ
    have hinside : (c.resolve locale remaining (chain ++ [(referencedId values reference).value]) .empty inner).value =
        some (c.messageOf locale (referencedId .empty inner).value) := by
      refine ih (fun path hpath => ?_) (by omega) (by omega)
      obtain ⟨hnodup, hlength⟩ := hpaths _ (hstep path hpath)
      rw [List.append_assoc]
      exact ⟨hnodup, Nat.le_of_succ_le_succ hlength⟩
    have hitself : (c.resolve locale (maxDepth - 1) [(referencedId values reference).value] .empty inner).value =
        some (c.messageOf locale (referencedId .empty inner).value) := by
      refine ih (fun path hpath => ?_) (by omega) (by omega)
      obtain ⟨hnodup, hlength⟩ := hpaths _ (hstep path hpath)
      exact ⟨(List.nodup_append.mp hnodup).2.1, Nat.le_of_succ_le_succ hlength⟩
    rw [hinside, hitself]

end Phrasebook.Context
