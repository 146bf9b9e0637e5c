import Phrasebook.Proofs.Text.CamelCase
import Mathlib.Data.List.Forall2

/-!
# Spellings of one name

A name of several words can be written with anything between the words that is neither letter nor numeral, in small letters
or in capitals, or without anything between them and a capital in front of each. All spellings are cut into the same words
(`exists_words_of_spells`), up to the case of their letters, and so they are the same in lower camel case
(`camelCase_of_spells`).

The words have two letters or more. A capital in front of a word is only told from the end of a word in capitals by the small
letter behind it.
-/

namespace Phrasebook.Text

open Unicode

variable {p c : Char} {s u w gap : List Char} {ws us : List (List Char)}

/-- A word of at least two small letters of ASCII. -/
def IsWord (w : List Char) : Prop := 2 ≤ w.length ∧ ∀ c ∈ w, c.isLower = true

instance (w : List Char) : Decidable (IsWord w) := @instDecidableAnd _ _ _ (List.decidableBAll _ w)

/-- A word with a capital in front. -/
def capitalized : List Char → List Char
  | [] => []
  | c :: rest => c.toUpper :: rest

/-- The first word, followed by the others with capitals in front. -/
def camel : List (List Char) → List Char
  | [] => []
  | first :: others => first ++ others.flatMap capitalized

/-- The text `u` is the word `w` in small letters, in capitals or with a capital in front. -/
inductive InCase (w : List Char) : List Char → Prop
  | lower : InCase w w
  | upper : InCase w (w.map Char.toUpper)
  | capitalized : InCase w (capitalized w)

/-- The text is the words `us` with something between each two that separates them. -/
inductive Separated : List (List Char) → List Char → Prop
  | single {u : List Char} : Separated [u] u
  | cons {u gap s : List Char} {us : List (List Char)} (hgap : IsGap gap) (hne : gap ≠ []) (h : Separated us s) :
      Separated (u :: us) (u ++ (gap ++ s))

/-- The text spells the name that is made of the words `ws`. Each of the separated words may be in a case of its own, so all of
them may be in small letters or in capitals. -/
inductive Spells (ws : List (List Char)) : List Char → Prop
  | separated {us : List (List Char)} {before s after : List Char} (hcase : List.Forall₂ InCase ws us)
      (h : Separated us s) (hbefore : IsGap before) (hafter : IsGap after) : Spells ws (before ++ (s ++ after))
  | pascal : Spells ws (ws.flatMap capitalized)
  | lowerCamel : Spells ws (camel ws)

/-! ## Letters of ASCII -/

/-- Small letters of the library are ASCII. -/
theorem toNat_lt_of_isLower (h : c.isLower = true) : c.toNat < 0x80 := toNat_lt_of_isAlpha (isAlpha_of_isLower h)

/-- To Unicode too they are small letters, and stay as they are in small letters. -/
theorem classes_of_isLower (h : c.isLower = true) :
    isAlphanumeric c = true ∧ isLowercase c = true ∧ isUppercase c = false ∧ c.toLower = c := by
  obtain ⟨huppercase, hlowercase, -, halphanumeric⟩ := classes_of_ascii (toNat_lt_of_isLower h)
  obtain ⟨hupper, hsame⟩ := forall_ascii (P := fun c => c.isLower = true → c.isUpper = false ∧ c.toLower = c) (by decide)
    (toNat_lt_of_isLower h) h
  refine ⟨?_, hlowercase.trans h, huppercase.trans hupper, hsame⟩
  rw [halphanumeric, Char.isAlphanum, isAlpha_of_isLower h, Bool.true_or]

/-- The character `d` is the capital of the letter `c`. -/
structure IsCapitalOf (c d : Char) : Prop where
  alphanumeric : isAlphanumeric d = true
  uppercase : isUppercase d = true
  not_lowercase : isLowercase d = false
  not_numeric : isNumeric d = false
  toLower : d.toLower = c
  toUpper : d.toUpper = d
  ascii : d.toNat < 0x80

/-- A small letter has its capital. -/
theorem isCapitalOf_toUpper (h : c.isLower = true) : IsCapitalOf c c.toUpper := by
  have hascii := toNat_lt_of_isLower h
  obtain ⟨hascii', -, hcapital, hsmall, hdigit, hback, htwice⟩ := toUpper_of_ascii hascii
  obtain ⟨huppercase, hlowercase, hnumeric, -⟩ := classes_of_ascii hascii'
  obtain ⟨halphanumeric, -, -, hlower⟩ := classes_of_isLower h
  exact {
    alphanumeric := (isAlphanumeric_toUpper hascii).trans halphanumeric
    uppercase := by rw [huppercase, hcapital, isAlpha_of_isLower h]
    not_lowercase := by rw [hlowercase, hsmall]
    not_numeric := by rw [hnumeric, hdigit, isDigit_eq_false_of_isAlpha (isAlpha_of_isLower h)]
    toLower := by rw [hback, hlower]
    toUpper := htwice
    ascii := hascii' }

/-! ## One word in each case -/

/-- Letter by letter, a word in some case is the word, up to the case of the letter. -/
def SameLetters : List Char → List Char → Prop := List.Forall₂ fun c d => d = c ∨ d = c.toUpper

/-- A word has the letters of itself. -/
theorem sameLetters_self (w : List Char) : SameLetters w w := List.forall₂_same.mpr fun _ _ => .inl rfl

/-- The case that a word is written in does not change its letters. -/
theorem sameLetters_of_inCase (h : InCase w u) : SameLetters w u := by
  cases h with
  | lower => exact sameLetters_self _
  | upper => exact List.forall₂_map_right_iff.mpr (List.forall₂_same.mpr fun _ _ => .inr rfl)
  | capitalized =>
    cases w with
    | nil => exact .nil
    | cons c w => exact .cons (.inr rfl) (sameLetters_self w)

/-- In small letters all spellings of a word are the word. -/
theorem lower_of_sameLetters {w : List Char} (hw : ∀ c ∈ w, c.isLower = true) (h : SameLetters w u) : lower u = w := by
  have hletters : (∀ d ∈ u, d.toNat < 0x80) ∧ u.map Char.toLower = w := by
    induction h with
    | nil => exact ⟨nofun, rfl⟩
    | @cons c d w u hcd h ih =>
      obtain ⟨hc, hw⟩ := List.forall_mem_cons.mp hw
      obtain ⟨hascii, hlower⟩ := ih hw
      have hd : d.toNat < 0x80 ∧ d.toLower = c := by
        rcases hcd with rfl | rfl
        · exact ⟨toNat_lt_of_isLower hc, (classes_of_isLower hc).2.2.2⟩
        · exact ⟨(isCapitalOf_toUpper hc).ascii, (isCapitalOf_toUpper hc).toLower⟩
      exact ⟨List.forall_mem_cons.mpr ⟨hd.1, hascii⟩, by rw [List.map_cons, hd.2, hlower]⟩
  rw [lower_of_ascii hletters.1, hletters.2]

/-- Capitalized, all spellings of a word are the capitalized word. -/
theorem capitalize_of_sameLetters (hw : ∀ c ∈ w, c.isLower = true) (h : SameLetters w u) : capitalize u = capitalized w := by
  cases h with
  | nil => rfl
  | @cons c d w u hcd h =>
    obtain ⟨hc, hw⟩ := List.forall_mem_cons.mp hw
    have hd : upperChar d = [c.toUpper] := by
      rcases hcd with rfl | rfl
      · exact upperChar_of_ascii (toNat_lt_of_isLower hc)
      · rw [upperChar_of_ascii (isCapitalOf_toUpper hc).ascii, (isCapitalOf_toUpper hc).toUpper]
    rw [capitalize, hd, lower_of_sameLetters hw h]
    rfl

/-- The words of a name in any case, joined. -/
theorem joinCamel_of_inCase (hwords : ∀ w ∈ ws, IsWord w) (h : List.Forall₂ InCase ws us) : joinCamel us = camel ws := by
  have hothers : ∀ {ws us : List (List Char)}, (∀ w ∈ ws, IsWord w) → List.Forall₂ InCase ws us →
      us.flatMap capitalize = ws.flatMap capitalized := by
    intro ws us hwords h
    induction h with
    | nil => rfl
    | cons hcase h ih =>
      obtain ⟨hw, hwords⟩ := List.forall_mem_cons.mp hwords
      rw [List.flatMap_cons, List.flatMap_cons, capitalize_of_sameLetters hw.2 (sameLetters_of_inCase hcase), ih hwords]
  cases h with
  | nil => rfl
  | cons hcase h =>
    obtain ⟨hw, hwords⟩ := List.forall_mem_cons.mp hwords
    rw [joinCamel, camel, lower_of_sameLetters hw.2 (sameLetters_of_inCase hcase), hothers hwords h]

/-! ## Where a word ends -/

/-- What stands behind a word that ends in `p` does not go on it: the text ends, something separates words, or a capital
follows a small letter. -/
def Ends (p : Char) (s : List Char) : Prop :=
  ∀ c ∈ s.head?, isAlphanumeric c = false ∨ isLowercase p = true ∧ isUppercase c = true

/-- Where a word ends, what follows is cut into words by itself. -/
theorem wordsAfter_of_ends (h : Ends p s) : wordsAfter p s = ([], words s) := by
  have hend : (wordsAfter p s).1 = [] := by
    cases s with
    | nil => rfl
    | cons c s =>
      cases hc : isAlphanumeric c with
      | false => rw [wordsAfter_cons_of_gap hc]
      | true =>
        rcases h c rfl with hgap | ⟨hp, hupper⟩
        · rw [hc] at hgap
          cases hgap
        · rw [wordsAfter_cons_of_startsWord hc (by simp [startsWord, hp, hupper])]
  rw [← consWord_wordsAfter p s, hend]
  exact Prod.ext hend rfl

/-- Small letters go on the word in front of them. -/
theorem wordsAfter_append_of_small (hu : ∀ c ∈ u, c.isLower = true) (h : Ends (u.getLastD p) s) :
    wordsAfter p (u ++ s) = (u, words s) := by
  induction u generalizing p with
  | nil => exact wordsAfter_of_ends h
  | cons c u ih =>
    obtain ⟨hc, hu⟩ := List.forall_mem_cons.mp hu
    obtain ⟨halphanumeric, -, hupper, -⟩ := classes_of_isLower hc
    rw [List.cons_append, wordsAfter_cons_of_goesOn halphanumeric (by simp [startsWord, hupper]), ih hu]
    rwa [List.getLastD_cons] at h

/-- So do capitals behind another one, unless a small letter follows. -/
theorem wordsAfter_append_of_capitals (hp : ∃ c, IsCapitalOf c p) (hu : ∀ d ∈ u, ∃ c, IsCapitalOf c d)
    (h : ∀ c ∈ s.head?, isAlphanumeric c = false) : wordsAfter p (u ++ s) = (u, words s) := by
  induction u generalizing p with
  | nil => exact wordsAfter_of_ends fun c hc => .inl (h c hc)
  | cons d u ih =>
    obtain ⟨hd, hu⟩ := List.forall_mem_cons.mp hu
    obtain ⟨_, hd'⟩ := hd
    obtain ⟨_, hp⟩ := hp
    have hnext : ∀ e ∈ (u ++ s).head?, isLowercase e = false := by
      cases u with
      | nil => exact fun e he => isLowercase_of_not_isAlphanumeric (h e he)
      | cons e u =>
        rintro _ ⟨⟩
        obtain ⟨_, he⟩ := hu e List.mem_cons_self
        exact he.not_lowercase
    have hgoes : startsWord p d (u ++ s) = false := by
      cases hhead : (u ++ s).head? with
      | none => simp [startsWord, hp.not_lowercase, hp.not_numeric, hhead]
      | some e => simp [startsWord, hp.not_lowercase, hp.not_numeric, hhead, hnext e hhead]
    rw [List.cons_append, wordsAfter_cons_of_goesOn hd'.alphanumeric hgoes, ih ⟨_, hd'⟩ hu]

/-! ## The words of a spelling -/

/-- The first word is cut off where it ends. -/
theorem words_cons_append (hc : isAlphanumeric c = true) (h : wordsAfter c (u ++ s) = (u, words s)) :
    words (c :: u ++ s) = (c :: u) :: words s := by
  rw [List.cons_append, ← consWord_wordsAfter ' ', consWord_wordsAfter_cons hc, h]

/-- A word in small letters ends where a gap, a capital or the text's end follows. -/
theorem words_append_of_small (hc : isAlphanumeric c = true) (hu : ∀ d ∈ u, d.isLower = true) (h : Ends (u.getLastD c) s) :
    words (c :: u ++ s) = (c :: u) :: words s :=
  words_cons_append hc (wordsAfter_append_of_small hu h)

/-- In front of what separates words, a word in any case is the first one. -/
theorem words_append_of_inCase (hw : IsWord w) (hcase : InCase w u) (hs : ∀ c ∈ s.head?, isAlphanumeric c = false) :
    words (u ++ s) = u :: words s := by
  obtain ⟨hlength, hsmall⟩ := hw
  cases w with
  | nil => cases hlength
  | cons c w =>
    obtain ⟨hc, hw⟩ := List.forall_mem_cons.mp hsmall
    have hcapital := isCapitalOf_toUpper hc
    cases hcase with
    | lower => exact words_append_of_small (classes_of_isLower hc).1 hw fun d hd => .inl (hs d hd)
    | capitalized => exact words_append_of_small hcapital.alphanumeric hw fun d hd => .inl (hs d hd)
    | upper =>
      have hcapitals : ∀ d ∈ w.map Char.toUpper, ∃ c, IsCapitalOf c d :=
        List.forall_mem_map.mpr fun d hd => ⟨d, isCapitalOf_toUpper (hw d hd)⟩
      exact words_cons_append hcapital.alphanumeric (wordsAfter_append_of_capitals ⟨c, hcapital⟩ hcapitals hs)

/-- In front of a capital, a word that ends in a small letter is the first one. -/
theorem words_append_of_capital (hw : IsWord w) (hu : u = w ∨ u = capitalized w)
    (hs : ∀ c ∈ s.head?, isUppercase c = true) : words (u ++ s) = u :: words s := by
  obtain ⟨hlength, hsmall⟩ := hw
  match w, hlength with
  | c :: d :: w, _ =>
    obtain ⟨hc, hw⟩ := List.forall_mem_cons.mp hsmall
    have hends : ∀ e, Ends ((d :: w).getLastD e) s := by
      intro e f hf
      rw [List.getLastD_cons]
      exact .inr ⟨(classes_of_isLower (hw _ List.getLastD_mem_cons)).2.1, hs f hf⟩
    rcases hu with rfl | rfl
    · exact words_append_of_small (classes_of_isLower hc).1 hw (hends c)
    · exact words_append_of_small (isCapitalOf_toUpper hc).alphanumeric hw (hends c.toUpper)

/-- The words of separated words, by induction on the separation. -/
theorem words_of_separated (hwords : ∀ w ∈ ws, IsWord w) (hcase : List.Forall₂ InCase ws us) (h : Separated us s) :
    words s = us := by
  induction h generalizing ws with
  | @single u =>
    cases hcase with
    | cons hu hnil =>
      cases hnil
      have hword := words_append_of_inCase (s := []) (hwords _ List.mem_cons_self) hu (by simp)
      rwa [List.append_nil] at hword
  | @cons u gap s us hgap hne h ih =>
    cases hcase with
    | cons hu hcase =>
      obtain ⟨hw, hwords⟩ := List.forall_mem_cons.mp hwords
      have hhead : ∀ c ∈ (gap ++ s).head?, isAlphanumeric c = false := by
        obtain ⟨d, gap, rfl⟩ := List.exists_cons_of_ne_nil hne
        rintro _ ⟨⟩
        exact hgap d List.mem_cons_self
      rw [words_append_of_inCase hw hu hhead, words_append_of_gap hgap, ih hwords hcase]

/-- Words with capitals in front begin with one. -/
theorem isUppercase_head_flatMap (hwords : ∀ w ∈ ws, IsWord w) :
    ∀ c ∈ (ws.flatMap capitalized).head?, isUppercase c = true := by
  cases ws with
  | nil => nofun
  | cons w ws =>
    obtain ⟨hlength, hsmall⟩ := hwords w List.mem_cons_self
    match w, hlength with
    | c :: w, _ =>
      rintro _ ⟨⟩
      exact (isCapitalOf_toUpper (hsmall c List.mem_cons_self)).uppercase

/-- The words of words with capitals in front, by induction on the words. -/
theorem words_flatMap_capitalized (hwords : ∀ w ∈ ws, IsWord w) : words (ws.flatMap capitalized) = ws.map capitalized := by
  induction ws with
  | nil => rfl
  | cons w ws ih =>
    obtain ⟨hw, hwords⟩ := List.forall_mem_cons.mp hwords
    rw [List.flatMap_cons, words_append_of_capital hw (.inr rfl) (isUppercase_head_flatMap hwords), ih hwords, List.map_cons]

/-- However a name is spelt, its words are the same up to the case of their letters. -/
theorem exists_words_of_spells (hwords : ∀ w ∈ ws, IsWord w) (h : Spells ws s) :
    ∃ us, words s = us ∧ List.Forall₂ InCase ws us := by
  have hcapitalized : ∀ ws : List (List Char), List.Forall₂ InCase ws (ws.map capitalized) := fun ws =>
    List.forall₂_map_right_iff.mpr (List.forall₂_same.mpr fun _ _ => .capitalized)
  cases h with
  | separated hcase h hbefore hafter =>
    refine ⟨_, ?_, hcase⟩
    rw [words_append_of_gap hbefore, words_gap_append hafter, words_of_separated hwords hcase h]
  | pascal => exact ⟨_, words_flatMap_capitalized hwords, hcapitalized ws⟩
  | lowerCamel =>
    cases ws with
    | nil => exact ⟨[], rfl, .nil⟩
    | cons w ws =>
      obtain ⟨hw, hwords⟩ := List.forall_mem_cons.mp hwords
      refine ⟨w :: ws.map capitalized, ?_, .cons .lower (hcapitalized ws)⟩
      rw [camel, words_append_of_capital hw (.inl rfl) (isUppercase_head_flatMap hwords), words_flatMap_capitalized hwords]

/-- All spellings of a name of words of two letters or more are one name in lower camel case: the first word, followed by the
others with capitals in front. -/
theorem camelCase_of_spells (hwords : ∀ w ∈ ws, IsWord w) (h : Spells ws s) : camelCase s = camel ws := by
  obtain ⟨us, hus, hcase⟩ := exists_words_of_spells hwords h
  rw [camelCase, hus, joinCamel_of_inCase hwords hcase]

/-- A word in capitals and one in small letters, with a dash and blanks between them. -/
theorem camelCase_of_spells_user_name : camelCase "USER - name".toList = "userName".toList := by
  have hwords : ∀ w ∈ ["user".toList, "name".toList], IsWord w :=
    List.forall_mem_cons.mpr ⟨by decide, List.forall_mem_singleton.mpr (by decide)⟩
  have hseparated : Separated ["USER".toList, "name".toList] ("USER".toList ++ (" - ".toList ++ "name".toList)) :=
    .cons (by decide) (by decide) .single
  have hspells : Spells ["user".toList, "name".toList] ([] ++ (("USER".toList ++ (" - ".toList ++ "name".toList)) ++ [])) :=
    .separated (.cons .upper (.cons .lower .nil)) hseparated nofun nofun
  exact camelCase_of_spells hwords hspells

end Phrasebook.Text
