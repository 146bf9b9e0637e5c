import Mathlib.Data.List.Basic
import Phrasebook.Context.Message
import Phrasebook.Proofs.Template.Pieces

/-!
# Filled templates

The text of a filled template is, part by part, what stands for the part, or the part as it is written (`value_fill`). It is
given up for a fallback only if some part stays as it is written.
-/

namespace Phrasebook.Context

open Template

variable {template : String} {given : Variables} {fallback : Option String}
  {resolve : Variables → List Fragment → Logged (Option String)}

/-- What stands in a filled template for a part: its filling, or the part as it is written. -/
def filling (given : Variables) (resolve : List Fragment → Logged (Option String)) (piece : Piece) : List Char :=
  match (fillPiece? given resolve piece).value with
  | some s => s.toList
  | none => piece.written

theorem text_cons (written : List Char) (filled : Option String) (others : Filled) :
    (others.cons written filled).text.toList = (filled.elim written String.toList) ++ others.text.toList := by
  cases filled <;> simp [Filled.cons]

/-- The text filled in is, part by part, the filling of the part. -/
theorem toList_text_fillPieces (given : Variables) (resolve : List Fragment → Logged (Option String))
    (pieces : List Piece) :
    (fillPieces given resolve pieces).value.text.toList = pieces.flatMap (filling given resolve) := by
  induction pieces with
  | nil => rfl
  | cons piece pieces ih =>
    rw [List.flatMap_cons, ← ih, filling]
    simp only [fillPieces, Logged.value_bind, Logged.value_pure]
    rw [text_cons]
    cases (fillPiece? given resolve piece).value <;> rfl

/-- Nothing is missing exactly if there is something for every part. -/
theorem missing_fillPieces_eq_nil_iff (resolve : List Fragment → Logged (Option String)) {pieces : List Piece} :
    (fillPieces given resolve pieces).value.missing = [] ↔
      ∀ piece ∈ pieces, (fillPiece? given resolve piece).value ≠ none := by
  induction pieces with
  | nil => simp [fillPieces]
  | cons piece pieces ih =>
    simp only [fillPieces, Logged.value_bind, Logged.value_pure, List.forall_mem_cons, ← ih]
    cases (fillPiece? given resolve piece).value <;> simp [Filled.cons]

/-- The fallback is not used where there is none, or where nothing is missing. -/
theorem value_orFallback {filled : Filled} (h : fallback = none ∨ filled.missing = []) :
    (orFallback template fallback filled).value = filled.text := by
  unfold orFallback
  split
  · rfl
  · next hmissing =>
    rcases h with rfl | h
    · rfl
    · rw [h] at hmissing
      exact absurd rfl hmissing

/-- The fallback is used if something is missing. -/
theorem value_orFallback_some {filled : Filled} (text : String) (h : filled.missing ≠ []) :
    (orFallback template (some text) filled).value = text := by
  rw [orFallback, if_neg (by simpa using h)]
  rfl

/-- A part that is no placeholder stands for itself. -/
theorem filling_of_not_isPlaceholder {resolve : List Fragment → Logged (Option String)} {piece : Piece}
    (h : ¬piece.isPlaceholder = true) : filling given resolve piece = piece.written := by
  cases piece with
  | text s => exact String.toList_ofList
  | name n => exact absurd rfl h
  | reference id => exact absurd rfl h

/-- A template without placeholders stays as it is. -/
theorem value_fill_of_no_placeholder {values : Option Variables}
    (h : ¬∃ piece ∈ pieces template.toList, piece.isPlaceholder = true) :
    (fill template values fallback resolve).value = template := by
  unfold fill
  simp only
  rw [if_pos (by simpa using h)]
  rfl

/-- A template with a placeholder is filled, or the fallback is used. -/
theorem value_fill_of_placeholder (h : ∃ piece ∈ pieces template.toList, piece.isPlaceholder = true) :
    (fill template (some given) fallback resolve).value =
      (orFallback template fallback (fillPieces given (resolve given) (pieces template.toList)).value).value := by
  unfold fill
  simp only [List.any_eq_true.mpr h]
  rfl

/-- A template is filled part by part if nothing else is to be used, or if there is something for every part. -/
theorem value_fill (h : fallback = none ∨
    ∀ piece ∈ pieces template.toList, (fillPiece? given (resolve given) piece).value ≠ none) :
    (fill template (some given) fallback resolve).value =
      String.ofList ((pieces template.toList).flatMap (filling given (resolve given))) := by
  by_cases hplaceholder : ∃ piece ∈ pieces template.toList, piece.isPlaceholder = true
  · rw [value_fill_of_placeholder hplaceholder, ← toList_text_fillPieces, String.ofList_toList]
    exact value_orFallback (h.imp_right (missing_fillPieces_eq_nil_iff _).mpr)
  · have hwritten : (pieces template.toList).flatMap (filling given (resolve given)) = template.toList := by
      rw [List.flatMap_congr (g := Piece.written)]
      · exact written_pieces _
      · exact fun piece hpiece => filling_of_not_isPlaceholder fun hp => hplaceholder ⟨piece, hpiece, hp⟩
    rw [value_fill_of_no_placeholder hplaceholder, hwritten, String.ofList_toList]

/-- Without values a template is filled as with none of them given. -/
theorem value_fill_none (template : String) (resolve : Variables → List Fragment → Logged (Option String)) :
    (fill template none none resolve).value = (fill template (some .empty) none resolve).value := by
  unfold fill
  simp only
  split <;> rfl

/-- The fallback is used if there is nothing for some part. -/
theorem value_fill_some (text : String)
    (h : ∃ piece ∈ pieces template.toList, (fillPiece? given (resolve given) piece).value = none) :
    (fill template (some given) (some text) resolve).value = text := by
  obtain ⟨piece, hpiece, hnone⟩ := h
  have hplaceholder : piece.isPlaceholder = true := by
    cases piece with
    | text s => cases hnone
    | name n => rfl
    | reference id => rfl
  rw [value_fill_of_placeholder ⟨piece, hpiece, hplaceholder⟩]
  exact value_orFallback_some text fun hnil => (missing_fillPieces_eq_nil_iff _).mp hnil piece hpiece hnone

/-- The fallback is used where no values are given, if there is a placeholder. -/
theorem value_fill_none_some (text : String) (h : ∃ piece ∈ pieces template.toList, piece.isPlaceholder = true) :
    (fill template none (some text) resolve).value = text := by
  unfold fill
  simp only [List.any_eq_true.mpr h]
  rfl

/-- A template without references is filled name by name. -/
theorem value_fill_of_noReference (hreference : NoReference template.toList)
    (h : fallback = none ∨ ∀ name ∈ (segments template.toList).named.map Prod.fst, given.get? name ≠ none) :
    (fill template (some given) fallback resolve).value =
      String.ofList (fillNames (shown given) template.toList) := by
  rw [value_fill, ← flatMap_pieces hreference]
  · congr 1
    apply List.flatMap_congr
    intro piece hpiece
    cases piece with
    | text s => exact String.toList_ofList
    | name n =>
      simp only [filling, fillPiece?, Logged.value_pure, substituted, shown]
      cases given.get? n <;> rfl
    | reference id => cases hreference _ hpiece
  · refine h.imp_right fun h piece hpiece => ?_
    cases piece with
    | text s => simp [fillPiece?]
    | name n => simpa [fillPiece?] using h n (mem_named_of_mem_pieces hreference hpiece)
    | reference id => cases hreference _ hpiece

end Phrasebook.Context
