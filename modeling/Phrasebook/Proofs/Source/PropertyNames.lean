import Mathlib.Data.List.TakeWhile
import Phrasebook.Proofs.Message.Writing
import Phrasebook.Proofs.Source.Literals
import Phrasebook.Proofs.Text.Splitting
import Phrasebook.Source.Rule

/-!
# The property names of an inline object

The text of an inline object is cut at every comma, and each part at its first colon (`partNames`), whatever these characters
belong to. So the names of the properties are found, and nothing else, exactly if the text behind each comma inside a value has
no name in front of its next comma or colon (`propertyNames_eq_names_iff`): that holds for strings in which nothing visible
stands there, and for calls with one argument at most.
-/

namespace Phrasebook

open Literal (IsQuote)
open Message (Blanks Stops blanks_nil isNameChar stops_cons)
open Text Unicode

variable {s t b b' name part : List Char} {c : Char}

/-! ## White space around a text -/

namespace Text

/-- White space in front is trimmed with the rest of it. -/
theorem trim_blanks_append (hb : Blanks b) : trim (b ++ s) = trim s := by
  rw [trim, trim, skipBlank, skipBlank, List.dropWhile_append_of_pos hb]

/-- White space at the end is dropped with the rest of it. -/
theorem dropEndWhile_append_blanks (hb : Blanks b) : dropEndWhile isBlank (s ++ b) = dropEndWhile isBlank s := by
  have hreverse : ∀ c ∈ b.reverse, isBlank c = true := fun c hc => hb c (List.mem_reverse.mp hc)
  rw [dropEndWhile, dropEndWhile, List.reverse_append, List.dropWhile_append_of_pos hreverse]

/-- White space behind a text does not matter once it is trimmed. -/
theorem trim_append_blanks (hb : Blanks b) : trim (s ++ b) = trim s := by
  have hnone : b.dropWhile isBlank = [] := List.dropWhile_eq_nil_iff.mpr hb
  rw [trim, trim, skipBlank, skipBlank, List.dropWhile_append]
  split
  · next hempty => rw [List.isEmpty_iff.mp hempty, hnone]
  · exact dropEndWhile_append_blanks hb

/-- Only white space is cut off. -/
theorem trim_eq_nil_iff : trim s = [] ↔ Blanks s := by
  constructor
  · intro h
    rw [trim, dropEndWhile, List.reverse_eq_nil_iff, List.dropWhile_eq_nil_iff] at h
    have hrest : skipBlank s = [] := by
      cases hskip : skipBlank s with
      | nil => rfl
      | cons c t =>
        have hc := List.head?_dropWhile_not isBlank s
        rw [← skipBlank, hskip] at hc
        rw [hskip] at h
        have hblank := h c (by simp)
        rw [List.head?_cons] at hc
        simp [hblank] at hc
    exact List.dropWhile_eq_nil_iff.mp hrest
  · intro h
    have hnone : trim (s ++ []) = trim [] := trim_blanks_append h
    rwa [List.append_nil] at hnone

/-- A text with a visible character at either end is what is left when the white space around it is cut off. -/
theorem trim_eq_of_visible (hb : Blanks b) (hb' : Blanks b') (hfirst : ∀ c, s.head? = some c → isBlank c = false)
    (hlast : ∀ c, s.getLast? = some c → isBlank c = false) : trim (b ++ (s ++ b')) = s := by
  have hskip : skipBlank s = s := Message.skipBlank_append blanks_nil hfirst
  have hend : s.reverse.dropWhile isBlank = s.reverse := by
    rw [← List.head?_reverse] at hlast
    exact Message.skipBlank_append blanks_nil hlast
  rw [trim_blanks_append hb, trim_append_blanks hb', trim, hskip, dropEndWhile, hend, List.reverse_reverse]

end Text

namespace InlineObject

/-! ## Inline objects -/

/-- One or more letters, numerals and underscores. -/
def IsPropertyName (name : List Char) : Prop := name ≠ [] ∧ ∀ c ∈ name, isNameChar c = true

instance (name : List Char) : Decidable (IsPropertyName name) := @instDecidableAnd _ _ _ (List.decidableBAll _ _)

/-- The text of one or more items with commas between them and white space around them, where `IsText` says what the text of an
item is. -/
inductive SeparatedText {α : Type} (IsText : α → List Char → Prop) : List α → List Char → Prop where
  | one {a : α} {b s b' : List Char} (hb : Blanks b) (hs : IsText a s) (hb' : Blanks b') :
      SeparatedText IsText [a] (b ++ (s ++ b'))
  | more {a : α} {items : List α} {b s b' rest : List Char} (hb : Blanks b) (hs : IsText a s) (hb' : Blanks b')
      (h : SeparatedText IsText items rest) : SeparatedText IsText (a :: items) (b ++ (s ++ (b' ++ ',' :: rest)))

/-- An argument of a call is a name, and its text is that name. -/
def IsArgument (argument s : List Char) : Prop := IsPropertyName argument ∧ s = argument

instance (argument s : List Char) : Decidable (IsArgument argument s) := inferInstanceAs (Decidable (_ ∧ _))

/-- A value in an inline object. -/
inductive PropertyValue where
  | number
  | string (text : List Char)
  | call (arguments : List (List Char))

/-- The text of a value. -/
inductive PropertyValue.IsText : PropertyValue → List Char → Prop where
  /-- A number is made of these characters (`Number.isNumeralChar_of_ofText?`). -/
  | number {s : List Char} (hne : s ≠ []) (hs : ∀ c ∈ s, Number.isNumeralChar c = true) : IsText .number s
  | string {quote : Char} {text : List Char} (hquote : IsQuote quote)
      (htext : ∀ c ∈ text, ¬IsQuote c ∧ c ∉ ['\\', '{', '}']) : IsText (.string text) (quote :: (text ++ [quote]))
  | call {function b s : List Char} {arguments : List (List Char)} (hfunction : IsPropertyName function) (hb : Blanks b)
      (hs : arguments = [] ∧ Blanks s ∨ SeparatedText IsArgument arguments s) :
      IsText (.call arguments) (function ++ (b ++ '(' :: (s ++ [')'])))

/-- A property of an inline object: a name, and perhaps a value. -/
structure InlineProperty where
  name : List Char
  value : Option PropertyValue

/-- The text of a property. -/
inductive InlineProperty.IsText : InlineProperty → List Char → Prop where
  | short {name : List Char} (hname : IsPropertyName name) : IsText ⟨name, none⟩ name
  | long {name b b' s : List Char} {value : PropertyValue} (hname : IsPropertyName name) (hb : Blanks b) (hb' : Blanks b')
      (hs : value.IsText s) : IsText ⟨name, some value⟩ (name ++ (b ++ ':' :: (b' ++ s)))

/-- The text begins with white space and a comma or a colon. -/
def BeginsWithMark (s : List Char) : Prop := ∃ b mark rest, Blanks b ∧ (mark = ',' ∨ mark = ':') ∧ s = b ++ mark :: rest

/-- The commas in the value leave nothing behind that looks like a name. -/
def PropertyValue.LeavesNoName : PropertyValue → Prop
  | .number => True
  | .string text => ∀ before after, text = before ++ ',' :: after → BeginsWithMark after
  | .call arguments => arguments.length ≤ 1

variable {value : PropertyValue} {property : InlineProperty} {properties : List InlineProperty}

/-! ## The names of the parts -/

/-- What stands in front of the first colon of a part, without the white space around it. -/
def partName (part : List Char) : List Char := trim (part.takeWhile (· != ':'))

/-- The names of parts that have one. -/
def namesOf (parts : List (List Char)) : List (List Char) := (parts.map partName).filter (!·.isEmpty)

/-- The names of the parts of a text between commas. -/
def partNames (s : List Char) : List (List Char) := namesOf (splitAt ',' s)

/-- The braces are taken off, as many as there are, and the names of the parts between them remain. -/
theorem propertyNames_eq (s : List Char) :
    propertyNames s = partNames (dropEndWhile (· == '}') ((trim s).dropWhile (· == '{'))) := rfl

/-- Each part gives its name by itself. -/
theorem namesOf_append (parts parts' : List (List Char)) : namesOf (parts ++ parts') = namesOf parts ++ namesOf parts' := by
  rw [namesOf, List.map_append, List.filter_append]
  rfl

/-- A comma cuts a text in two, whatever it belongs to. -/
theorem partNames_append (s t : List Char) : partNames (s ++ ',' :: t) = partNames s ++ partNames t := by
  rw [partNames, splitAt_append, namesOf_append]
  rfl

/-- Without commas there is one part. -/
theorem partNames_of_not_mem (h : ',' ∉ s) : partNames s = namesOf [s] := by rw [partNames, splitAt_of_not_mem h]

/-- White space is made of white space only. -/
theorem not_mem_of_blanks (hb : Blanks b) (hc : isBlank c = false) : c ∉ b := by
  intro hmem
  rw [hb c hmem] at hc
  cases hc

/-- A colon ends the name of a part, and none of the white space in front is one. -/
theorem takeWhile_blanks_append (hb : Blanks b) : (b ++ s).takeWhile (· != ':') = b ++ s.takeWhile (· != ':') := by
  refine List.takeWhile_append_of_pos fun c hc => ?_
  have hne : c ≠ ':' := by
    rintro rfl
    exact not_mem_of_blanks hb (by decide) hc
  simp [hne]

/-- White space in front of a part does not belong to its name. -/
theorem partName_blanks_append (hb : Blanks b) : partName (b ++ s) = partName s := by
  rw [partName, takeWhile_blanks_append hb, trim_blanks_append hb, partName]

/-- Nor does white space behind it, with a colon in the part or without. -/
theorem partName_append_blanks (hb : Blanks b) : partName (s ++ b) = partName s := by
  have hall : b.takeWhile (· != ':') = b := by
    have htake := takeWhile_blanks_append (s := []) hb
    rwa [List.append_nil, List.takeWhile_nil, List.append_nil] at htake
  rw [partName, List.takeWhile_append]
  split
  · next hlength =>
    rw [hall, trim_append_blanks hb, partName, (List.takeWhile_prefix _).eq_of_length hlength]
  · rfl

/-- A text is taken apart at its first comma, and what follows that one again. -/
theorem comma_induction {P : List Char → Prop} (hlast : ∀ part, ',' ∉ part → P part)
    (hmore : ∀ part rest, ',' ∉ part → P rest → P (part ++ ',' :: rest)) (s : List Char) : P s := by
  by_cases hmem : ',' ∈ s
  · obtain ⟨part, rest, rfl, hpart⟩ := List.eq_append_cons_of_mem hmem
    exact hmore part rest hpart (comma_induction hlast hmore rest)
  · exact hlast s hmem
  termination_by s.length
  decreasing_by
    rename_i heq
    rw [heq, List.length_append, List.length_cons]
    omega

/-- White space in front of a text belongs to its first part and so to no name. -/
theorem partNames_blanks_append (hb : Blanks b) : partNames (b ++ s) = partNames s := by
  have hnone : ',' ∉ b := not_mem_of_blanks hb (by decide)
  induction s using comma_induction with
  | hlast part hpart =>
    rw [partNames_of_not_mem hpart, partNames_of_not_mem (by simp [hnone, hpart])]
    simp only [namesOf, List.map_singleton, partName_blanks_append hb]
  | hmore part rest hpart =>
    rw [← List.append_assoc, partNames_append, partNames_append, partNames_of_not_mem hpart,
      partNames_of_not_mem (by simp [hnone, hpart])]
    simp only [namesOf, List.map_singleton, partName_blanks_append hb]

/-- White space behind it belongs to its last part. -/
theorem partNames_append_blanks (hb : Blanks b) : partNames (s ++ b) = partNames s := by
  have hnone : ',' ∉ b := not_mem_of_blanks hb (by decide)
  induction s using comma_induction with
  | hlast part hpart =>
    rw [partNames_of_not_mem hpart, partNames_of_not_mem (by simp [hnone, hpart])]
    simp only [namesOf, List.map_singleton, partName_append_blanks hb]
  | hmore part rest hpart ih => rw [List.append_assoc, List.cons_append, partNames_append, partNames_append, ih]

/-! ## Names behind a comma -/

/-- A part has no name if nothing visible stands in front of its colon. -/
theorem namesOf_singleton (part : List Char) : namesOf [part] = [] ↔ partName part = [] := by
  simp [namesOf, List.filter_cons]

/-- A part with a name gives just this name. -/
theorem namesOf_of_ne_nil (hne : partName part ≠ []) : namesOf [part] = [partName part] := by
  simp [namesOf, hne]

/-- The names of the parts behind the first comma. -/
def namesBehind (s : List Char) : List (List Char) := namesOf (splitAt ',' s).tail

/-- No names stand behind commas where there are none. -/
theorem namesBehind_of_not_mem (h : ',' ∉ s) : namesBehind s = [] := by
  rw [namesBehind, splitAt_of_not_mem h]
  rfl

/-- Behind the first comma all names count. -/
theorem namesBehind_append_comma (h : ',' ∉ part) : namesBehind (part ++ ',' :: s) = partNames s := by
  rw [namesBehind, splitAt_append, splitAt_of_not_mem h]
  rfl

/-- What stands in front of the first comma does not matter. -/
theorem namesBehind_append (h : ',' ∉ t) : namesBehind (t ++ s) = namesBehind s := by
  by_cases hmem : ',' ∈ s
  · obtain ⟨part, rest, rfl, hpart⟩ := List.eq_append_cons_of_mem hmem
    rw [← List.append_assoc, namesBehind_append_comma (by simp [h, hpart]), namesBehind_append_comma hpart]
  · rw [namesBehind_of_not_mem (by simp [h, hmem]), namesBehind_of_not_mem hmem]

/-- Only white space, or a colon as the first thing visible, leaves a part without a name. -/
theorem partName_eq_nil_iff (h : ',' ∉ part) : partName part = [] ↔ Blanks part ∨ BeginsWithMark part := by
  rw [partName, trim_eq_nil_iff]
  by_cases hmem : ':' ∈ part
  · obtain ⟨front, rest, rfl, hfront⟩ := List.eq_append_cons_of_mem hmem
    have htake : (front ++ ':' :: rest).takeWhile (· != ':') = front :=
      Message.takeWhile_append (fun c hc => bne_iff_ne.mpr (ne_of_mem_of_not_mem hc hfront)) (stops_cons rfl)
    rw [htake]
    constructor
    · intro hblanks
      exact .inr ⟨front, ':', rest, hblanks, .inr rfl, rfl⟩
    · rintro (hblanks | ⟨b, mark, after, hb, hmark | rfl, heq⟩)
      · exact fun c hc => hblanks c (List.mem_append_left _ hc)
      · rw [heq, hmark] at h
        exact absurd (by simp) h
      · have hb' : (front ++ ':' :: rest).takeWhile (· != ':') = b := by
          rw [heq, takeWhile_blanks_append hb, List.takeWhile_cons_of_neg (by simp), List.append_nil]
        rwa [← htake, hb']
  · have htake : part.takeWhile (· != ':') = part :=
      List.takeWhile_eq_self_iff.mpr fun c hc => bne_iff_ne.mpr (ne_of_mem_of_not_mem hc hmem)
    rw [htake]
    refine (or_iff_left ?_).symm
    rintro ⟨b, mark, after, -, rfl | rfl, rfl⟩
    · exact h (by simp)
    · exact hmem (by simp)

/-- A comma is itself a mark, so before it white space is enough. -/
theorem beginsWithMark_append_comma : BeginsWithMark (part ++ ',' :: s) ↔ Blanks part ∨ BeginsWithMark part := by
  constructor
  · rintro ⟨b, mark, rest, hb, hmark, heq⟩
    rcases List.append_eq_append_iff.mp heq with ⟨t, rfl, -⟩ | ⟨t, rfl, ht⟩
    · exact .inl fun c hc => hb c (List.mem_append_left t hc)
    · cases t with
      | nil =>
        rw [List.append_nil]
        exact .inl hb
      | cons d t =>
        obtain ⟨rfl, -⟩ := List.cons.inj ht
        exact .inr ⟨b, _, t, hb, hmark, rfl⟩
  · rintro (hb | ⟨b, mark, rest, hb, hmark, rfl⟩)
    · exact ⟨part, ',', s, hb, .inl rfl, rfl⟩
    · exact ⟨b, mark, rest ++ ',' :: s, hb, hmark, by simp⟩

/-- No part of a text has a name if the first has none, and none behind it. -/
theorem partNames_eq_nil_iff : partNames s = [] ↔ (Blanks s ∨ BeginsWithMark s) ∧ namesBehind s = [] := by
  by_cases hmem : ',' ∈ s
  · obtain ⟨part, rest, rfl, hpart⟩ := List.eq_append_cons_of_mem hmem
    have hvisible : ¬Blanks (part ++ ',' :: rest) := fun hb =>
      not_mem_of_blanks hb (by decide) (List.mem_append_right _ List.mem_cons_self)
    rw [partNames_append, partNames_of_not_mem hpart, List.append_eq_nil_iff, namesOf_singleton, partName_eq_nil_iff hpart,
      namesBehind_append_comma hpart, beginsWithMark_append_comma, or_iff_right hvisible]
  · rw [partNames_of_not_mem hmem, namesOf_singleton, partName_eq_nil_iff hmem, namesBehind_of_not_mem hmem]
    exact (and_iff_left rfl).symm

/-- What follows the commas of a text is what follows the first of them, and what follows the commas of that. -/
theorem forall_behind_comma {P : List Char → Prop} (h : ',' ∉ part) :
    (∀ before after, part ++ ',' :: s = before ++ ',' :: after → P after) ↔
      P s ∧ ∀ before after, s = before ++ ',' :: after → P after := by
  constructor
  · intro hall
    refine ⟨hall part s rfl, fun before after heq => hall (part ++ ',' :: before) after ?_⟩
    rw [heq, List.append_assoc, List.cons_append]
  · rintro ⟨hfirst, hrest⟩ before after heq
    rcases List.append_eq_append_iff.mp heq with ⟨t, rfl, ht⟩ | ⟨t, rfl, ht⟩
    · cases t with
      | nil =>
        obtain ⟨-, rfl⟩ := List.cons.inj ht
        exact hfirst
      | cons d t =>
        obtain ⟨-, rfl⟩ := List.cons.inj ht
        exact hrest t after rfl
    · cases t with
      | nil =>
        obtain ⟨-, rfl⟩ := List.cons.inj ht
        exact hfirst
      | cons d t =>
        obtain ⟨rfl, -⟩ := List.cons.inj ht
        exact absurd (by simp) h

/-- Nothing behind a comma gives a name exactly if every comma is followed by nothing visible, or by a mark. -/
theorem namesBehind_eq_nil_iff (s : List Char) :
    namesBehind s = [] ↔ ∀ before after, s = before ++ ',' :: after → Blanks after ∨ BeginsWithMark after := by
  induction s using comma_induction with
  | hlast part hpart =>
    refine iff_of_true (namesBehind_of_not_mem hpart) ?_
    rintro before after rfl
    exact absurd (by simp) hpart
  | hmore part rest hpart ih =>
    rw [namesBehind_append_comma hpart, partNames_eq_nil_iff, ih,
      forall_behind_comma (P := fun s => Blanks s ∨ BeginsWithMark s) hpart]

/-! ## The characters of properties -/

/-- A visible character that neither separates properties nor stands around them. -/
def IsOrdinary (c : Char) : Prop := isBlank c = false ∧ c ∉ [',', ':', '{', '}']

instance (c : Char) : Decidable (IsOrdinary c) := inferInstanceAs (Decidable (_ ∧ _))

/-- A character of a name is no white space and none of the marks. -/
theorem isOrdinary_of_isNameChar (h : isNameChar c = true) : IsOrdinary c := by
  refine ⟨Message.isBlank_of_isTokenChar (Message.isTokenChar_of_isIdentifierChar h), fun hmem => ?_⟩
  have hnone : [',', ':', '{', '}'].filter isNameChar = [] := by decide
  exact List.filter_eq_nil_iff.mp hnone c hmem h

/-- Nor is a character of a number. -/
theorem isOrdinary_of_isNumeralChar (h : Number.isNumeralChar c = true) : IsOrdinary c := by
  refine ⟨Message.isBlank_of_isTokenChar (Message.isTokenChar_of_isNumeralChar h), fun hmem => ?_⟩
  have hnone : [',', ':', '{', '}'].filter Number.isNumeralChar = [] := by decide
  exact List.filter_eq_nil_iff.mp hnone c hmem h

/-- Nor is a quotation mark. -/
theorem isOrdinary_of_isQuote (h : IsQuote c) : IsOrdinary c := h.of_all (by decide)

/-- An ordinary character does not end a part. -/
theorem IsOrdinary.ne_comma (h : IsOrdinary c) : c ≠ ',' := by
  rintro rfl
  exact h.2 (by simp)

/-- So a text of ordinary characters is one part. -/
theorem not_mem_of_ordinary (h : ∀ c ∈ s, IsOrdinary c) : ',' ∉ s := fun hmem => (h _ hmem).ne_comma rfl

/-- The names of properties are such texts. -/
theorem IsPropertyName.ordinary (h : IsPropertyName name) : ∀ c ∈ name, IsOrdinary c := by
  intro c hc
  exact isOrdinary_of_isNameChar (h.2 c hc)

/-- Behind a comma a visible character that is no mark begins a name. -/
theorem not_blanks_and_not_beginsWithMark (hb : Blanks b) (hc : IsOrdinary c) :
    ¬(Blanks (b ++ c :: s) ∨ BeginsWithMark (b ++ c :: s)) := by
  have hskip : ∀ {b s} {c : Char}, Blanks b → isBlank c = false → skipBlank (b ++ c :: s) = c :: s := fun hb hc =>
    Message.skipBlank_append hb (stops_cons hc)
  rintro (hall | ⟨b', mark, rest, hb', hmark, heq⟩)
  · exact not_mem_of_blanks hall hc.1 (List.mem_append_right _ List.mem_cons_self)
  · have hvisible : isBlank mark = false := by rcases hmark with rfl | rfl <;> decide
    have hcons := (hskip hb hc.1).symm.trans (heq ▸ hskip hb' hvisible)
    obtain ⟨rfl, -⟩ := List.cons.inj hcons
    rcases hmark with rfl | rfl
    · exact hc.ne_comma rfl
    · exact hc.2 (by simp)

/-! ## The names of one property -/

/-- A property name is the name of its part, with white space behind it and perhaps a colon. -/
theorem partName_of_isPropertyName (h : IsPropertyName name) (hb : Blanks b) (ht : t = [] ∨ ∃ u, t = ':' :: u) :
    partName (name ++ (b ++ t)) = name := by
  have hordinary : ∀ c ∈ name ++ b, (c != ':') = true := by
    intro c hc
    rw [bne_iff_ne]
    rintro rfl
    rcases List.mem_append.mp hc with hc | hc
    · exact (h.ordinary _ hc).2 (by simp)
    · exact not_mem_of_blanks hb (by decide) hc
  have htake : (name ++ (b ++ t)).takeWhile (· != ':') = name ++ b := by
    rw [← List.append_assoc]
    refine Message.takeWhile_append hordinary ?_
    rcases ht with rfl | ⟨u, rfl⟩
    · nofun
    · exact stops_cons rfl
  rw [partName, htake]
  exact trim_eq_of_visible blanks_nil hb (fun c hc => (h.ordinary c (List.mem_of_mem_head? hc)).1)
    fun c hc => (h.ordinary c (List.mem_of_mem_getLast? hc)).1

/-- A property in short notation is one part, which is its name. -/
theorem partNames_of_isPropertyName (h : IsPropertyName name) : partNames name = [name] := by
  have hname : partName name = name := by simpa using partName_of_isPropertyName h blanks_nil (.inl rfl)
  rw [partNames_of_not_mem (not_mem_of_ordinary h.ordinary), namesOf_of_ne_nil (by rw [hname]; exact h.1), hname]

/-- A property has its name, and what its value leaves behind. -/
theorem partNames_long (h : IsPropertyName name) (hb : Blanks b) :
    partNames (name ++ (b ++ ':' :: s)) = name :: namesBehind s := by
  have hname : ∀ u, namesOf [name ++ (b ++ ':' :: u)] = [name] := by
    intro u
    have hpart := partName_of_isPropertyName h hb (.inr ⟨u, rfl⟩)
    rw [namesOf_of_ne_nil (by rw [hpart]; exact h.1), hpart]
  have hnone : ∀ u, ',' ∉ u → ',' ∉ name ++ (b ++ ':' :: u) := fun u hu => by
    simp [not_mem_of_ordinary h.ordinary, not_mem_of_blanks hb (show isBlank ',' = false by decide), hu]
  by_cases hmem : ',' ∈ s
  · obtain ⟨part, rest, rfl, hpart⟩ := List.eq_append_cons_of_mem hmem
    have hassoc : name ++ (b ++ ':' :: (part ++ ',' :: rest)) = (name ++ (b ++ ':' :: part)) ++ ',' :: rest := by simp
    rw [hassoc, partNames_append, partNames_of_not_mem (hnone part hpart), hname, namesBehind_append_comma hpart,
      List.singleton_append]
  · rw [partNames_of_not_mem (hnone s hmem), hname, namesBehind_of_not_mem hmem]

/-- Items begin with an ordinary character if the text of each does. -/
theorem SeparatedText.exists_ordinary {α : Type} {IsText : α → List Char → Prop} {items : List α}
    (h : SeparatedText IsText items s) (hordinary : ∀ a t, IsText a t → ∃ c u, t = c :: u ∧ IsOrdinary c) :
    items ≠ [] ∧ ∃ b c t, Blanks b ∧ IsOrdinary c ∧ s = b ++ c :: t := by
  cases h with
  | one hb hs =>
    obtain ⟨c, u, rfl, hc⟩ := hordinary _ _ hs
    exact ⟨List.cons_ne_nil _ _, _, c, _, hb, hc, rfl⟩
  | more hb hs =>
    obtain ⟨c, u, rfl, hc⟩ := hordinary _ _ hs
    exact ⟨List.cons_ne_nil _ _, _, c, _, hb, hc, rfl⟩

/-- A property name begins with a visible character that is no mark. -/
theorem IsPropertyName.exists_cons (h : IsPropertyName name) : ∃ c t, name = c :: t ∧ IsOrdinary c := by
  obtain ⟨c, t, rfl⟩ := List.exists_cons_of_ne_nil h.1
  exact ⟨c, t, rfl, h.ordinary c List.mem_cons_self⟩

/-- A character that is no mark comes after every mark in front of it. -/
theorem exists_concat_of_ne {before after : List Char} {mark last : Char} (hne : last ≠ mark)
    (h : s ++ [last] = before ++ mark :: after) : ∃ rest, after = rest ++ [last] ∧ s = before ++ mark :: rest := by
  rcases List.eq_nil_or_concat after with rfl | ⟨rest, last', rfl⟩
  · obtain ⟨-, hlast⟩ := List.append_inj' h rfl
    exact absurd (List.head_eq_of_cons_eq hlast) hne
  · rw [List.concat_eq_append, ← List.cons_append, ← List.append_assoc] at h
    obtain ⟨rfl, hlast⟩ := List.append_inj' h rfl
    obtain rfl := List.head_eq_of_cons_eq hlast
    exact ⟨rest, List.concat_eq_append, rfl⟩

/-- The closing quote is neither white space nor a mark, so it does not matter behind a comma. -/
theorem beginsWithMark_append_quote {quote : Char} (hquote : IsQuote quote) :
    Blanks (s ++ [quote]) ∨ BeginsWithMark (s ++ [quote]) ↔ BeginsWithMark s := by
  constructor
  · rintro (hblanks | ⟨b, mark, after, hb, hmark, heq⟩)
    · exact absurd (List.mem_append_right _ List.mem_cons_self) (not_mem_of_blanks hblanks hquote.isBlank)
    · have hne : quote ≠ mark := by
        rintro rfl
        exact absurd hmark (hquote.of_all (P := fun c => ¬(c = ',' ∨ c = ':')) (by decide))
      obtain ⟨rest, -, hs⟩ := exists_concat_of_ne hne heq
      exact ⟨b, mark, rest, hb, hmark, hs⟩
  · rintro ⟨b, mark, rest, hb, hmark, rfl⟩
    exact .inr ⟨b, mark, rest ++ [quote], hb, hmark, by simp⟩

/-- A string leaves no name behind its commas exactly if a mark follows each. Its last comma is followed by the
quotation mark at least, so white space alone is not enough. -/
theorem namesBehind_string_eq_nil_iff {quote : Char} (hquote : IsQuote quote) :
    namesBehind (quote :: (s ++ [quote])) = [] ↔ ∀ before after, s = before ++ ',' :: after → BeginsWithMark after := by
  have hne : quote ≠ ',' := (isOrdinary_of_isQuote hquote).ne_comma
  have hnone : ',' ∉ [quote] := by simpa using hne.symm
  rw [← List.singleton_append, namesBehind_append hnone, namesBehind_eq_nil_iff]
  constructor
  · intro hall before after heq
    exact (beginsWithMark_append_quote hquote).mp (hall before (after ++ [quote]) (by rw [heq]; simp))
  · intro hall before after heq
    obtain ⟨rest, rfl, hs⟩ := exists_concat_of_ne hne heq
    exact (beginsWithMark_append_quote hquote).mpr (hall before rest hs)

/-- A call with two arguments has a comma, and the second argument behind it gives a name. -/
theorem namesBehind_arguments_eq_nil_iff {arguments : List (List Char)} (h : SeparatedText IsArgument arguments s) :
    namesBehind (s ++ [')']) = [] ↔ arguments.length ≤ 1 := by
  cases h with
  | one hb ha hb' =>
    obtain ⟨ha, rfl⟩ := ha
    have hblanks : ∀ {b}, Blanks b → ',' ∉ b := fun hb => not_mem_of_blanks hb (by decide)
    have hnone := not_mem_of_ordinary ha.ordinary
    exact iff_of_true (namesBehind_of_not_mem (by simp [hblanks hb, hblanks hb', hnone])) (Nat.le_refl 1)
  | @more a items b t b' rest hb ha hb' h =>
    -- the second argument is visible behind the first comma
    obtain ⟨hitems, b'', c, u, hb'', hc, rfl⟩ := h.exists_ordinary fun a t ⟨ha, heq⟩ => heq ▸ ha.exists_cons
    have hlength := List.length_pos_iff.mpr hitems
    refine iff_of_false (fun hnil => ?_) (Nat.not_le.mpr (Nat.succ_lt_succ hlength))
    have hbehind := (namesBehind_eq_nil_iff _).mp hnil (b ++ (t ++ b')) (b'' ++ c :: (u ++ [')'])) (by simp)
    exact not_blanks_and_not_beginsWithMark hb'' hc hbehind

/-- For each kind of value: numbers and names have no commas, strings and calls may. -/
theorem PropertyValue.IsText.namesBehind_eq_nil_iff (h : value.IsText s) : namesBehind s = [] ↔ value.LeavesNoName := by
  cases h with
  | number hne hs =>
    have hnone := not_mem_of_ordinary fun c hc => isOrdinary_of_isNumeralChar (hs c hc)
    exact iff_of_true (namesBehind_of_not_mem hnone) trivial
  | string hquote => exact namesBehind_string_eq_nil_iff hquote
  | @call function b s arguments hfunction hb hs =>
    have hblanks : ∀ {b}, Blanks b → ',' ∉ b := fun hb => not_mem_of_blanks hb (by decide)
    have hfront : ',' ∉ function ++ (b ++ ['(']) := by simp [not_mem_of_ordinary hfunction.ordinary, hblanks hb]
    have hsplit : function ++ (b ++ '(' :: (s ++ [')'])) = (function ++ (b ++ ['('])) ++ (s ++ [')']) := by simp
    rw [hsplit, namesBehind_append hfront]
    rcases hs with ⟨rfl, hs⟩ | hs
    · exact iff_of_true (namesBehind_of_not_mem (by simp [hblanks hs])) (Nat.zero_le 1)
    · exact namesBehind_arguments_eq_nil_iff hs

/-- A property gives its own name first, and then whatever its value leaves behind commas. -/
theorem InlineProperty.IsText.partNames (h : property.IsText s) : ∃ strays, partNames s = property.name :: strays ∧
    (strays = [] ↔ ∀ value ∈ property.value, value.LeavesNoName) := by
  cases h with
  | short hname => exact ⟨[], partNames_of_isPropertyName hname, by simp⟩
  | @long name b b' s value hname hb hb' hs =>
    refine ⟨_, partNames_long hname hb, ?_⟩
    rw [namesBehind_append (not_mem_of_blanks hb' (by decide)), hs.namesBehind_eq_nil_iff]
    simp

/-! ## The names of all properties -/

/-- Each property gives its name, so the names are those of the properties if no other stands among them. -/
theorem SeparatedText.partNames_eq_iff (h : SeparatedText InlineProperty.IsText properties s) :
    properties.length ≤ (partNames s).length ∧
      (partNames s = properties.map (·.name) ↔ ∀ property ∈ properties, ∀ value ∈ property.value, value.LeavesNoName) := by
  induction h with
  | one hb hs hb' =>
    obtain ⟨strays, hnames, hstrays⟩ := hs.partNames
    rw [partNames_blanks_append hb, partNames_append_blanks hb', hnames]
    exact ⟨by simp, by simp [hstrays]⟩
  | @more property properties b s b' rest hb hs hb' h ih =>
    obtain ⟨strays, hnames, hstrays⟩ := hs.partNames
    have hassoc : s ++ (b' ++ ',' :: rest) = (s ++ b') ++ ',' :: rest := by simp
    rw [partNames_blanks_append hb, hassoc, partNames_append, partNames_append_blanks hb', hnames, List.cons_append]
    refine ⟨by rw [List.length_cons, List.length_cons, List.length_append]; omega, ?_⟩
    rw [List.forall_mem_cons, ← hstrays, ← ih.2, List.map_cons, List.cons_inj_right]
    constructor
    · intro heq
      have hlength := congrArg List.length heq
      rw [List.length_append, List.length_map] at hlength
      obtain rfl : strays = [] := List.eq_nil_of_length_eq_zero (by omega)
      exact ⟨rfl, heq⟩
    · rintro ⟨rfl, heq⟩
      exact heq

/-- The text has a first character and a last, and both are ordinary. -/
def HasOrdinaryEnds (s : List Char) : Prop := (∃ c t, s = c :: t ∧ IsOrdinary c) ∧ ∃ t c, s = t ++ [c] ∧ IsOrdinary c

/-- What stands between two texts does not matter to the ends of the whole. -/
theorem HasOrdinaryEnds.append (h : HasOrdinaryEnds s) (h' : HasOrdinaryEnds t) (u : List Char) :
    HasOrdinaryEnds (s ++ (u ++ t)) := by
  obtain ⟨⟨c, r, rfl, hc⟩, -⟩ := h
  obtain ⟨-, r', c', rfl, hc'⟩ := h'
  exact ⟨⟨c, _, rfl, hc⟩, c :: (r ++ (u ++ r')), c', by simp, hc'⟩

/-- A text of ordinary characters has such ends. -/
theorem hasOrdinaryEnds_of_ordinary (hne : s ≠ []) (hs : ∀ c ∈ s, IsOrdinary c) : HasOrdinaryEnds s := by
  refine ⟨?_, s.dropLast, s.getLast hne, (List.dropLast_append_getLast hne).symm, hs _ (List.getLast_mem hne)⟩
  obtain ⟨c, t, rfl⟩ := List.exists_cons_of_ne_nil hne
  exact ⟨c, t, rfl, hs c List.mem_cons_self⟩

/-- A property name has them. -/
theorem IsPropertyName.hasOrdinaryEnds (h : IsPropertyName name) : HasOrdinaryEnds name :=
  hasOrdinaryEnds_of_ordinary h.1 h.ordinary

/-- A single ordinary character is both ends. -/
theorem hasOrdinaryEnds_singleton (hc : IsOrdinary c) : HasOrdinaryEnds [c] := ⟨⟨c, [], rfl, hc⟩, [], c, rfl, hc⟩

/-- A value has them: a string ends in its quotation mark, and a call in its parenthesis. -/
theorem PropertyValue.IsText.hasOrdinaryEnds (h : value.IsText s) : HasOrdinaryEnds s := by
  cases h with
  | number hne hs => exact hasOrdinaryEnds_of_ordinary hne fun c hc => isOrdinary_of_isNumeralChar (hs c hc)
  | string hquote =>
    have hends := hasOrdinaryEnds_singleton (isOrdinary_of_isQuote hquote)
    exact hends.append hends _
  | @call function b s arguments hfunction =>
    have hends := hfunction.hasOrdinaryEnds.append (hasOrdinaryEnds_singleton (c := ')') (by decide)) (b ++ '(' :: s)
    rwa [List.append_assoc, List.cons_append] at hends

/-- A property begins with its name and ends with its value, or with the name. -/
theorem InlineProperty.IsText.hasOrdinaryEnds (h : property.IsText s) : HasOrdinaryEnds s := by
  cases h with
  | short hname => exact hname.hasOrdinaryEnds
  | @long name b b' s value hname hb hb' hs =>
    have hends := hname.hasOrdinaryEnds.append hs.hasOrdinaryEnds (b ++ ':' :: b')
    rwa [List.append_assoc, List.cons_append] at hends

/-- So do several properties, but for white space around them all. -/
theorem SeparatedText.hasOrdinaryEnds (h : SeparatedText InlineProperty.IsText properties s) :
    ∃ b t b', Blanks b ∧ Blanks b' ∧ HasOrdinaryEnds t ∧ s = b ++ (t ++ b') := by
  induction h with
  | one hb hs hb' => exact ⟨_, _, _, hb, hb', hs.hasOrdinaryEnds, rfl⟩
  | @more property properties b s b' rest hb hs _ _ ih =>
    obtain ⟨b₁, t, b₂, -, hb₂, ht, rfl⟩ := ih
    exact ⟨b, s ++ ((b' ++ ',' :: b₁) ++ t), b₂, hb, hb₂, hs.hasOrdinaryEnds.append ht _, by simp⟩

/-- A text with ordinary characters at its ends is cut as it is. -/
theorem propertyNames_eq_partNames (hb : Blanks b) (hb' : Blanks b') (ht : HasOrdinaryEnds t) :
    propertyNames (b ++ (t ++ b')) = partNames (b ++ (t ++ b')) := by
  have hbrace : ∀ {c brace : Char}, IsOrdinary c → brace ∈ [',', ':', '{', '}'] → (c == brace) = false := fun hc hmem =>
    beq_eq_false_iff_ne.mpr (ne_of_mem_of_not_mem hmem hc.2).symm
  obtain ⟨⟨c, u, hfirst, hc⟩, u', c', hlast, hc'⟩ := ht
  have htrim : trim (b ++ (t ++ b')) = t := by
    refine trim_eq_of_visible hb hb' (fun d hd => ?_) fun d hd => ?_
    · rw [hfirst, List.head?_cons] at hd
      exact Option.some.inj hd ▸ hc.1
    · rw [hlast, List.getLast?_concat] at hd
      exact Option.some.inj hd ▸ hc'.1
  have hopen : t.dropWhile (· == '{') = t := by
    rw [hfirst, List.dropWhile_cons_of_neg (by simp [hbrace hc])]
  have hclose : dropEndWhile (· == '}') t = t := by
    rw [hlast, dropEndWhile, List.reverse_concat, List.dropWhile_cons_of_neg (by simp [hbrace hc']), List.reverse_cons,
      List.reverse_reverse]
  rw [propertyNames_eq, htrim, hopen, hclose, partNames_blanks_append hb, partNames_append_blanks hb']

/-- The names of the properties are found in order, and nothing else, exactly if no comma within a value leaves a name behind. -/
theorem propertyNames_eq_names_iff (h : SeparatedText InlineProperty.IsText properties s) :
    propertyNames s = properties.map (·.name) ↔ ∀ property ∈ properties, ∀ value ∈ property.value, value.LeavesNoName := by
  obtain ⟨b, t, b', hb, hb', ht, rfl⟩ := h.hasOrdinaryEnds
  rw [propertyNames_eq_partNames hb hb' ht]
  exact h.partNames_eq_iff.2

namespace PropertyNamesWitness

/-- A name alone, and a name with a call. -/
def withCall (arguments : List (List Char)) : List InlineProperty :=
  [⟨"first".toList, none⟩, ⟨"total".toList, some (.call arguments)⟩]

/-- The object is a text of its properties for every list of arguments. -/
theorem isText_withCall {arguments : List (List Char)} (h : SeparatedText IsArgument arguments s) :
    SeparatedText InlineProperty.IsText (withCall arguments) ("first, total: sum(".toList ++ (s ++ [')'])) := by
  have hname : ∀ name ∈ ["first".toList, "total".toList, "sum".toList], IsPropertyName name := by decide
  have hspace : Blanks [' '] := by decide
  have hcall : PropertyValue.IsText (.call arguments) ("sum".toList ++ ([] ++ '(' :: (s ++ [')']))) :=
    .call (hname _ (by simp)) blanks_nil (.inr h)
  have hshort : InlineProperty.IsText ⟨"first".toList, none⟩ "first".toList := .short (hname _ (by simp))
  have hlong : InlineProperty.IsText ⟨"total".toList, some (.call arguments)⟩ _ :=
    .long (hname _ (by simp)) blanks_nil hspace hcall
  have hall := SeparatedText.more blanks_nil hshort blanks_nil (.one hspace hlong blanks_nil)
  rwa [List.append_nil] at hall

end PropertyNamesWitness

open PropertyNamesWitness in
/-- A call with one argument leaves no name. -/
theorem propertyNames_eq_names_iff_sum :
    SeparatedText InlineProperty.IsText (withCall ["a".toList]) "first, total: sum(a)".toList ∧
      propertyNames "first, total: sum(a)".toList = ["first".toList, "total".toList] := by
  have htext : SeparatedText InlineProperty.IsText (withCall ["a".toList]) "first, total: sum(a)".toList :=
    isText_withCall (.one blanks_nil ⟨by decide, rfl⟩ blanks_nil)
  exact ⟨htext, (propertyNames_eq_names_iff htext).mpr (by simp [withCall, PropertyValue.LeavesNoName])⟩

open PropertyNamesWitness in
/-- The second argument of a call is not told from a property. -/
theorem propertyNames_eq_names_false :
    SeparatedText InlineProperty.IsText (withCall ["a".toList, "b".toList]) "first, total: sum(a, b)".toList ∧
      propertyNames "first, total: sum(a, b)".toList = ["first".toList, "total".toList, "b)".toList] ∧
      (withCall ["a".toList, "b".toList]).map (·.name) = ["first".toList, "total".toList] := by
  have hspace : Blanks [' '] := by decide
  have hfirst : IsArgument "a".toList "a".toList := by decide
  have hsecond : IsArgument "b".toList "b".toList := by decide
  have harguments : SeparatedText IsArgument ["a".toList, "b".toList] "a, b".toList :=
    .more blanks_nil hfirst blanks_nil (.one hspace hsecond blanks_nil)
  exact ⟨isText_withCall harguments, by decide, rfl⟩

end InlineObject

end Phrasebook
