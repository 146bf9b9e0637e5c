import Phrasebook.Proofs.Context.Replacing
import Phrasebook.Proofs.Source.Descriptors

/-!
# References to the ids of descriptors

A descriptor may have an id with hyphens, but no hyphen may stand in a reference. The ids without hyphens are the ones that can
be referenced: a template that is nothing but a reference to one becomes the message of that id, and with a hyphen in the id the
template stays as it is written (`value_replaceVariables_referenceTo`).
-/

namespace Phrasebook.Context

open Template

variable {c : Context} {text id : String} {d : Descriptor} {given : Variables} {locale fallback : Option String}
  {s rest : List Char}

/-- The template that is a reference to an id. -/
def referenceTo (id : String) : String := "\x7b@'" ++ id ++ "'\x7d"

theorem toList_referenceTo (id : String) : (referenceTo id).toList = '{' :: '@' :: '\'' :: (id.toList ++ ['\'', '}']) := by
  simp [referenceTo]

/-- The characters of an id are those that may stand in a reference, and hyphens. -/
theorem isIdChar_of_read (hread : Descriptor.read text = .ok d) :
    d.id.toList ≠ [] ∧ ∀ c ∈ d.id.toList, isIdChar c = true ∨ c = '-' := by
  obtain ⟨entries, -, hd⟩ := Descriptor.read_eq_ok_iff.mp hread
  refine ⟨by simpa using hd.idNotEmpty, fun c hc => ?_⟩
  rcases hd.idChars c hc with halpha | rfl | rfl | rfl
  · exact .inl (by simp [isIdChar, isNameChar, Char.isAlphanum, halpha])
  · exact .inl (by decide)
  · exact .inl (by decide)
  · exact .inr rfl

/-! ## Ids without hyphens -/

/-- The reference to an id is a placeholder if its characters may stand in one. -/
theorem isSplit_referenceTo (hne : id.toList ≠ []) (hid : ∀ c ∈ id.toList, isIdChar c = true) :
    IsSplit (referenceTo id).toList [.reference [.text id.toList]] := by
  have hplaceholder : IsPlaceholder (.reference [.text id.toList]) :=
    .reference (List.cons_ne_nil _ _) ⟨hne, hid, nofun, trivial⟩
  have hsplit := IsSplit.placeholder hplaceholder .nil
  rw [toList_referenceTo]
  simpa [Piece.written, Fragment.written] using hsplit

/-- What stands for a reference is the message of its id. -/
theorem value_replaceVariables_of_isSplit
    (hsplit : IsSplit (referenceTo id).toList [.reference [.text id.toList]]) :
    (c.replaceVariables (referenceTo id) (some given) locale fallback).value = c.messageOf locale id := by
  have hnone : (c.replaceVariables (referenceTo id) (some given) locale none).value = c.messageOf locale id := by
    obtain ⟨⟨parts, hparts, hvalue⟩, -⟩ := c.value_replaceVariables_eq (referenceTo id) locale
    obtain rfl := (hparts _).mp hsplit
    rw [hvalue given]
    simp [replacement, idOf, shownFragment]
  cases fallback with
  | none => exact hnone
  | some text =>
    rw [value_replaceVariables_of_not_lacksName hsplit, hnone]
    rintro ⟨n, hn, -⟩
    cases List.mem_singleton.mp hn

/-! ## Ids with hyphens -/

/-- The reader of ids stops at a hyphen, by induction on what stands before it. -/
theorem readId?_of_hyphen (hid : ∀ c ∈ s, isIdChar c = true ∨ c = '-') (hhyphen : '-' ∈ s) : readId? (s ++ rest) = none := by
  induction s with
  | nil => cases hhyphen
  | cons c s ih =>
    obtain ⟨hc, hid⟩ := List.forall_mem_cons.mp hid
    have hquote : c ≠ '\'' := by
      rintro rfl
      revert hc
      decide
    have hbrace : c ≠ '{' := by
      rintro rfl
      revert hc
      decide
    rw [List.cons_append, readId?, if_neg hquote, if_neg hbrace]
    split
    · next hchar =>
      have hbehind : '-' ∈ s := by
        rcases List.mem_cons.mp hhyphen with rfl | hbehind
        · exact absurd hchar (by decide)
        · exact hbehind
      rw [ih hid hbehind]
      rfl
    · rfl

/-- No placeholder begins in the reference to an id with a hyphen. -/
theorem isSplit_referenceTo_of_hyphen (hid : ∀ c ∈ id.toList, isIdChar c = true ∨ c = '-') (hhyphen : '-' ∈ id.toList) :
    IsSplit (referenceTo id).toList [.text (referenceTo id).toList] := by
  have hread : readPlaceholder? ('@' :: '\'' :: (id.toList ++ ['\'', '}'])) = none := by
    rw [readPlaceholder?, readId?_of_hyphen hid hhyphen]
    rfl
  have hbrace : '{' ∉ '@' :: '\'' :: (id.toList ++ ['\'', '}']) := by
    intro hmem
    have hmem : '{' ∈ id.toList := by simpa using hmem
    have hchar := hid _ hmem
    revert hchar
    decide
  have hfree : ∀ u, u <:+ (referenceTo id).toList → u ≠ [] → ¬BeginsPlaceholder (u ++ []) := by
    intro u hu hne
    rw [toList_referenceTo] at hu
    rw [List.append_nil]
    rcases List.suffix_cons_iff.mp hu with rfl | hu
    · exact not_beginsPlaceholder_brace hread
    · obtain ⟨c, u, rfl⟩ := List.exists_cons_of_ne_nil hne
      refine not_beginsPlaceholder_cons ?_
      rintro rfl
      exact hbrace (hu.mem List.mem_cons_self)
  have hne : (referenceTo id).toList ≠ [] := by
    rw [toList_referenceTo]
    exact List.cons_ne_nil _ _
  have hsplit := IsSplit.text hne (by simp) hfree .nil
  rwa [List.append_nil] at hsplit

/-- A reference to the id of a descriptor becomes the message of that id if no hyphen stands in the id. With a hyphen in it, the
reference stays as it is written. -/
theorem value_replaceVariables_referenceTo (hread : Descriptor.read text = .ok d) :
    ('-' ∉ d.id.toList → (c.replaceVariables (referenceTo d.id) (some given) locale fallback).value =
      (c.formatMessage ⟨d.id, none⟩ (some .empty) locale none).value) ∧
    ('-' ∈ d.id.toList →
      (c.replaceVariables (referenceTo d.id) (some given) locale fallback).value = referenceTo d.id) := by
  obtain ⟨hne, hid⟩ := isIdChar_of_read hread
  refine ⟨fun hhyphen => ?_, fun hhyphen => ?_⟩
  · have hchars : ∀ c ∈ d.id.toList, isIdChar c = true := fun c hc =>
      (hid c hc).resolve_right fun heq => hhyphen (heq ▸ hc)
    exact value_replaceVariables_of_isSplit (isSplit_referenceTo hne hchars)
  · have hsplit := isSplit_iff.mp (isSplit_referenceTo_of_hyphen hid hhyphen)
    exact value_fill_of_no_placeholder (by rw [← hsplit]; simp [Piece.isPlaceholder])

namespace ReferencedIdsWitness

/-- Two messages, one of them with a hyphen in its id. -/
def messages : Context := .ofCatalogue ⟨.ofList [("en", .ofList [("user.name", "Name"), ("user-name", "Name")])]⟩ "en"

end ReferencedIdsWitness

open ReferencedIdsWitness in
theorem value_replaceVariables_referenceTo_user_name :
    Descriptor.read "\x7b id: 'user.name' \x7d" = .ok ⟨"user.name", none⟩ ∧
      (messages.replaceVariables (referenceTo "user.name") (some .empty) none none).value = "Name" := by
  have hread : Descriptor.read "\x7b id: 'user.name' \x7d" = .ok ⟨"user.name", none⟩ := by decide +kernel
  have hmessage : (messages.formatMessage ⟨"user.name", none⟩ (some .empty) none none).value = "Name" := by decide +kernel
  exact ⟨hread, ((value_replaceVariables_referenceTo hread).1 (by decide)).trans hmessage⟩

open ReferencedIdsWitness in
/-- The id of a descriptor with a hyphen has a message, and the reference to it stays as it is written. -/
theorem value_replaceVariables_referenceTo_false :
    Descriptor.read "\x7b id: 'user-name' \x7d" = .ok ⟨"user-name", none⟩ ∧
      messages.templateOf (some "en") ⟨"user-name", none⟩ = some "Name" ∧
      (messages.replaceVariables "\x7b@'user-name'\x7d" (some .empty) (some "en") none).value = "\x7b@'user-name'\x7d" ∧
      (messages.formatMessage ⟨"user-name", none⟩ (some .empty) (some "en") none).value = "Name" := by
  decide +kernel

end Phrasebook.Context
