import Phrasebook.Proofs.Text.CamelCase
import Mathlib.Data.List.Chain

/-!
# Words joined in camel case

A text put into camel case is made of letters, numerals and the marks that come with a letter in another case
(`isCaseChar_of_mem_camelCase`), and it begins with a letter or numeral unless the text has neither (`exists_camelCase_eq_cons`).

Whether it is in camel case afterwards is seen from the words of the text. For ASCII texts the only words that lose their
boundary are a single letter and a word behind it that goes on in a capital or a numeral, both behind the first word
(`isCamel_camelCase_iff`).
-/

namespace Phrasebook.Text

open Unicode

variable {p c : Char} {s u w : List Char} {ws : List (List Char)}

/-! ## What words are made of -/

/-- The word is not empty and made of letters and numerals of the text. -/
structure IsWordOf (s w : List Char) : Prop where
  ne_nil : w ≠ []
  mem : ∀ c ∈ w, c ∈ s
  isAlphanumeric : ∀ c ∈ w, isAlphanumeric c = true

theorem IsWordOf.cons (h : IsWordOf s w) : IsWordOf (c :: s) w :=
  ⟨h.ne_nil, fun d hd => List.mem_cons_of_mem c (h.mem d hd), h.isAlphanumeric⟩

theorem mem_consWord (h : w ∈ consWord u ws) : w ≠ [] ∧ w = u ∨ w ∈ ws := by
  unfold consWord at h
  split at h
  · exact .inr h
  · next hu =>
    rcases List.mem_cons.mp h with rfl | h
    · exact .inl ⟨fun hnil => hu (List.isEmpty_iff.mpr hnil), rfl⟩
    · exact .inr h

/-- The end of a word and the words behind it, by induction on the text. -/
theorem mem_wordsAfter : (∀ c ∈ (wordsAfter p s).1, c ∈ s ∧ isAlphanumeric c = true) ∧
    ∀ w ∈ (wordsAfter p s).2, IsWordOf s w := by
  induction s generalizing p with
  | nil => exact ⟨nofun, nofun⟩
  | cons c s ih =>
    obtain ⟨hword, hwords⟩ := @ih c
    have hend : ∀ d ∈ (wordsAfter c s).1, d ∈ c :: s ∧ isAlphanumeric d = true := fun d hd =>
      ⟨List.mem_cons_of_mem c (hword d hd).1, (hword d hd).2⟩
    cases hc : isAlphanumeric c with
    | false =>
      rw [wordsAfter_cons_of_gap hc]
      refine ⟨nofun, fun w hw => ?_⟩
      rcases mem_consWord hw with ⟨hne, rfl⟩ | hw
      · exact ⟨hne, fun d hd => (hend d hd).1, fun d hd => (hend d hd).2⟩
      · exact (hwords w hw).cons
    | true =>
      have hcons : ∀ d ∈ c :: (wordsAfter c s).1, d ∈ c :: s ∧ isAlphanumeric d = true :=
        List.forall_mem_cons.mpr ⟨⟨List.mem_cons_self, hc⟩, hend⟩
      cases hstart : startsWord p c s with
      | true =>
        rw [wordsAfter_cons_of_startsWord hc hstart]
        refine ⟨nofun, List.forall_mem_cons.mpr ⟨?_, fun w hw => (hwords w hw).cons⟩⟩
        exact ⟨List.cons_ne_nil c _, fun d hd => (hcons d hd).1, fun d hd => (hcons d hd).2⟩
      | false =>
        rw [wordsAfter_cons_of_goesOn hc hstart]
        exact ⟨hcons, fun w hw => (hwords w hw).cons⟩

theorem isWordOf_of_mem_words (h : w ∈ words s) : IsWordOf s w := by
  obtain ⟨hword, hwords⟩ := @mem_wordsAfter ' ' s
  rcases mem_consWord h with ⟨hne, rfl⟩ | h
  · exact ⟨hne, fun c hc => (hword c hc).1, fun c hc => (hword c hc).2⟩
  · exact hwords w h

/-! ## What joined words are made of -/

section

variable {P : Char → Prop}

theorem forall_mem_lowerAfter {before : List Char} (h : ∀ before rest, ∀ c ∈ s, ∀ d ∈ lowerAt before c rest, P d) :
    ∀ d ∈ lowerAfter before s, P d := by
  induction s generalizing before with
  | nil => exact nofun
  | cons c s ih =>
    rw [lowerAfter_cons, List.forall_mem_append]
    exact ⟨h before s c List.mem_cons_self, ih fun before rest d hd => h before rest d (List.mem_cons_of_mem c hd)⟩

/-- The characters of camel case are those of the letters and numerals in lower and in upper case. -/
theorem forall_mem_camelCase
    (hlower : ∀ before rest, ∀ c ∈ s, isAlphanumeric c = true → ∀ d ∈ lowerAt before c rest, P d)
    (hupper : ∀ c ∈ s, isAlphanumeric c = true → ∀ d ∈ upperChar c, P d) : ∀ d ∈ camelCase s, P d := by
  have hwords : ∀ w ∈ words s, (∀ before rest, ∀ c ∈ w, ∀ d ∈ lowerAt before c rest, P d) ∧ ∀ c ∈ w, ∀ d ∈ upperChar c, P d := by
    intro w hw
    obtain ⟨-, hmem, hletters⟩ := isWordOf_of_mem_words hw
    exact ⟨fun before rest c hc => hlower before rest c (hmem c hc) (hletters c hc),
      fun c hc => hupper c (hmem c hc) (hletters c hc)⟩
  rw [camelCase]
  cases hcut : words s with
  | nil => exact List.forall_mem_nil _
  | cons first others =>
    rw [hcut] at hwords
    obtain ⟨hfirst, hothers⟩ := List.forall_mem_cons.mp hwords
    rw [joinCamel, List.forall_mem_append, List.forall_mem_flatMap]
    refine ⟨forall_mem_lowerAfter hfirst.1, fun w hw => ?_⟩
    obtain ⟨hlower, hupper⟩ := hothers w hw
    cases w with
    | nil => exact List.forall_mem_nil _
    | cons c w =>
      rw [capitalize, List.forall_mem_append]
      exact ⟨hupper c List.mem_cons_self,
        forall_mem_lowerAfter fun before rest d hd => hlower before rest d (List.mem_cons_of_mem c hd)⟩

end

/-- A letter, a numeral, or a mark beyond ASCII that comes with a letter in another case. -/
def IsCaseChar (c : Char) : Prop := isAlphanumeric c = true ∨ 0x80 ≤ c.toNat

theorem isCaseChar_of_isCaseOf {image : List Char} (h : IsCaseOf c image) : ∀ d ∈ image, IsCaseChar d := by
  obtain ⟨d, marks, rfl, hd, -, hmarks⟩ := h
  exact List.forall_mem_cons.mpr ⟨.inl hd, hmarks⟩

theorem isCaseChar_of_mem_camelCase : ∀ c ∈ camelCase s, IsCaseChar c :=
  forall_mem_camelCase (fun _ _ _ _ hc => isCaseChar_of_isCaseOf (isCaseOf_lowerAt hc))
    fun _ _ hc => isCaseChar_of_isCaseOf (isCaseOf_upperChar hc)

/-- Camel case begins with a letter or numeral, if the text has any. -/
theorem exists_camelCase_eq_cons (h : camelCase s ≠ []) : ∃ c t, camelCase s = c :: t ∧ isAlphanumeric c = true := by
  rcases words_cases s with hnone | ⟨c, word, ws, hwords, hc⟩
  · exact absurd (congrArg joinCamel hnone) h
  · obtain ⟨d, marks, himage, hd, -⟩ : IsCaseOf c (lowerAt [] c word) := isCaseOf_lowerAt hc
    have hjoin : camelCase s = d :: (marks ++ (lowerAfter [c] word ++ ws.flatMap capitalize)) := by
      rw [camelCase, hwords, joinCamel, lower, lowerAfter_cons, himage, List.append_assoc, List.cons_append]
    exact ⟨d, _, hjoin, hd⟩

/-- Camel case does not lose all letters and numerals when it is taken again. -/
theorem camelCase_camelCase_ne_nil (h : camelCase s ≠ []) : camelCase (camelCase s) ≠ [] := by
  obtain ⟨c, t, heq, hc⟩ := exists_camelCase_eq_cons h
  obtain ⟨d, marks, himage, -⟩ : IsCaseOf c (lowerAt [] c (wordsAfter c t).1) := isCaseOf_lowerAt hc
  rw [heq, camelCase, ← consWord_wordsAfter ' ', consWord_wordsAfter_cons hc, joinCamel, lower, lowerAfter_cons, himage]
  exact List.cons_ne_nil _ _

/-! ## ASCII -/

/-- A letter or numeral of ASCII. -/
def IsAsciiLetter (c : Char) : Prop := c.toNat < 0x80 ∧ isAlphanumeric c = true

/-- It is one or the other. -/
theorem isDigit_of_isAsciiLetter (h : IsAsciiLetter c) : c.isDigit = !c.isAlpha := by
  obtain ⟨hascii, halphanumeric⟩ := h
  rw [(classes_of_ascii hascii).2.2.2] at halphanumeric
  cases halpha : c.isAlpha with
  | true => exact isDigit_eq_false_of_isAlpha halpha
  | false => simpa [Char.isAlphanum, halpha] using halphanumeric

/-- Its lower case goes on a word, and a capital behind it begins one. -/
theorem toLower_of_isAsciiLetter (h : IsAsciiLetter c) : isAlphanumeric c.toLower = true ∧
    lowerChar c.toLower = [c.toLower] ∧ (isLowercase c.toLower || isNumeric c.toLower) = true ∧
    isLowercase c.toLower = c.isAlpha := by
  obtain ⟨hascii, -, hsmall, hdigit, htwice⟩ := toLower_of_ascii h.1
  obtain ⟨-, hlowercase, hnumeric, -⟩ := classes_of_ascii hascii
  refine ⟨(isAlphanumeric_toLower h.1).trans h.2, ?_, ?_, ?_⟩
  · rw [lowerChar_of_ascii hascii, htwice]
  · rw [hlowercase, hnumeric, hsmall, hdigit, isDigit_of_isAsciiLetter h, Bool.or_not_self]
  · rw [hlowercase, hsmall]

/-- Its upper case is a capital if it is not a numeral. -/
theorem toUpper_of_isAsciiLetter (h : IsAsciiLetter c) : isAlphanumeric c.toUpper = true ∧
    (lowerChar c.toUpper ≠ [c.toUpper] ↔ c.isAlpha = true) ∧ isUppercase c.toUpper = c.isAlpha ∧
    (isLowercase c.toUpper || isNumeric c.toUpper) = !c.isAlpha ∧ isLowercase c.toUpper = false := by
  obtain ⟨hascii, -, hcapital, hsmall, hdigit, hback, -⟩ := toUpper_of_ascii h.1
  obtain ⟨huppercase, hlowercase, hnumeric, -⟩ := classes_of_ascii hascii
  refine ⟨(isAlphanumeric_toUpper h.1).trans h.2, ?_, ?_, ?_, ?_⟩
  · rw [lowerChar_of_ascii hascii, ne_eq, List.singleton_inj, hback]
    exact toLower_ne_toUpper_iff h.1
  · rw [huppercase, hcapital]
  · rw [hlowercase, hnumeric, hsmall, hdigit, isDigit_of_isAsciiLetter h, Bool.false_or]
  · rw [hlowercase, hsmall]

/-- The word is made of letters and numerals of ASCII. -/
def IsAsciiWord (w : List Char) : Prop := w ≠ [] ∧ ∀ c ∈ w, IsAsciiLetter c

theorem lower_of_isAsciiWord (hw : ∀ c ∈ w, IsAsciiLetter c) : lower w = w.map Char.toLower :=
  lower_of_ascii fun c hc => (hw c hc).1

theorem capitalize_cons_of_isAsciiWord (hc : IsAsciiLetter c) (hw : ∀ c ∈ w, IsAsciiLetter c) :
    capitalize (c :: w) = c.toUpper :: w.map Char.toLower := by
  rw [capitalize, upperChar_of_ascii hc.1, lower_of_isAsciiWord hw]
  rfl

/-- Do the words lose their boundary in camel case, if neither is the first? The first one is a single letter, and behind the
initial letter of the second stands no other letter. -/
def runTogether : List Char → List Char → Bool
  | [c], d :: rest => c.isAlpha && d.isAlpha && !(rest.head?.map Char.isAlpha).getD false
  | _, _ => false

/-- No capital stands in what goes on a word. -/
theorem capitalsBegin_append_lowered (hw : ∀ c ∈ w, IsAsciiLetter c) :
    CapitalsBegin p (w.map Char.toLower ++ s) ↔ CapitalsBegin ((w.map Char.toLower).getLastD p) s := by
  induction w generalizing p with
  | nil => exact Iff.rfl
  | cons c w ih =>
    obtain ⟨hc, hw⟩ := List.forall_mem_cons.mp hw
    obtain ⟨-, hlower, -⟩ := toLower_of_isAsciiLetter hc
    rw [List.map_cons, List.cons_append, CapitalsBegin, ih hw, List.getLastD_cons]
    exact and_iff_right fun hne => absurd hlower hne

theorem capitalsBegin_capitalize (hc : IsAsciiLetter c) (hw : ∀ c ∈ w, IsAsciiLetter c) :
    CapitalsBegin p (capitalize (c :: w) ++ s) ↔
      (c.isAlpha = true → startsWord p c.toUpper (w.map Char.toLower ++ s) = true) ∧
        CapitalsBegin ((w.map Char.toLower).getLastD c.toUpper) s := by
  rw [capitalize_cons_of_isAsciiWord hc hw, List.cons_append, CapitalsBegin, capitalsBegin_append_lowered hw,
    (toUpper_of_isAsciiLetter hc).2.1]

/-- Behind the first letter of a word a small letter stands exactly if the next character of the word is a letter. -/
theorem isLowercase_head_lowered (hw : ∀ c ∈ w, IsAsciiLetter c) (hws : ∀ w ∈ ws, IsAsciiWord w) :
    ((w.map Char.toLower ++ ws.flatMap capitalize).head?.map isLowercase).getD false =
      (w.head?.map Char.isAlpha).getD false := by
  cases w with
  | cons c w => exact (toLower_of_isAsciiLetter (hw c List.mem_cons_self)).2.2.2
  | nil =>
    cases ws with
    | nil => rfl
    | cons w ws =>
      obtain ⟨hne, hw⟩ := hws w List.mem_cons_self
      obtain ⟨c, w, rfl⟩ := List.exists_cons_of_ne_nil hne
      obtain ⟨hc, hw⟩ := List.forall_mem_cons.mp hw
      rw [List.flatMap_cons, capitalize_cons_of_isAsciiWord hc hw]
      exact (toUpper_of_isAsciiLetter hc).2.2.2.2

/-- A numeral or small letter ends a word that goes on behind its first letter. -/
theorem isQuiet_getLastD {d : Char} (hw : ∀ c ∈ d :: w, IsAsciiLetter c) :
    (isLowercase (((d :: w).map Char.toLower).getLastD p) || isNumeric (((d :: w).map Char.toLower).getLastD p)) = true := by
  have hmem : ((d :: w).map Char.toLower).getLastD p ∈ (d :: w).map Char.toLower := by
    rw [List.map_cons, List.getLastD_cons]
    exact List.getLastD_mem_cons
  obtain ⟨c, hc, heq⟩ := List.mem_map.mp hmem
  rw [← heq]
  exact (toLower_of_isAsciiLetter (hw c hc)).2.2.1

/-- Behind a word that is not the first one, the capitals begin words if no two words run together, by induction on the words. -/
theorem capitalsBegin_flatMap_iff (hc : IsAsciiLetter c) (hw : ∀ c ∈ w, IsAsciiLetter c) (hws : ∀ w ∈ ws, IsAsciiWord w) :
    CapitalsBegin ((w.map Char.toLower).getLastD c.toUpper) (ws.flatMap capitalize) ↔
      ((c :: w) :: ws).IsChain fun u w => runTogether u w = false := by
  induction ws generalizing c w with
  | nil => exact iff_of_true trivial (List.isChain_singleton _)
  | cons u ws ih =>
    obtain ⟨⟨hne, hletters⟩, hothers⟩ := List.forall_mem_cons.mp hws
    obtain ⟨d, u, rfl⟩ := List.exists_cons_of_ne_nil hne
    obtain ⟨hd, hu⟩ := List.forall_mem_cons.mp hletters
    obtain ⟨-, -, hupper, -⟩ := toUpper_of_isAsciiLetter hd
    rw [List.flatMap_cons, capitalsBegin_capitalize hd hu, ih hd hu hothers, List.isChain_cons_cons]
    refine and_congr_left' ?_
    cases w with
    | nil =>
      obtain ⟨-, -, hcapital, hquiet, -⟩ := toUpper_of_isAsciiLetter hc
      simp only [List.map_nil, List.getLastD_nil, startsWord, hupper, hcapital, hquiet, isLowercase_head_lowered hu hothers,
        runTogether]
      cases c.isAlpha <;> cases d.isAlpha <;> simp
    | cons e w =>
      simp only [startsWord, hupper, isQuiet_getLastD hw, runTogether]
      cases d.isAlpha <;> simp

theorem isAlphanumeric_of_mem_camelCase (hs : ∀ c ∈ s, c.toNat < 0x80) : ∀ c ∈ camelCase s, isAlphanumeric c = true := by
  refine forall_mem_camelCase (fun before rest c hc halphanumeric => ?_) fun c hc halphanumeric => ?_
  · rw [lowerAt_of_ascii (hs c hc), List.forall_mem_singleton]
    exact (toLower_of_isAsciiLetter ⟨hs c hc, halphanumeric⟩).1
  · rw [upperChar_of_ascii (hs c hc), List.forall_mem_singleton]
    exact (toUpper_of_isAsciiLetter ⟨hs c hc, halphanumeric⟩).1

/-- The camel case of an ASCII text is in camel case exactly if no two words behind the first one run together. -/
theorem isCamel_camelCase_iff (hs : ∀ c ∈ s, c.toNat < 0x80) :
    IsCamel (camelCase s) ↔ (words s).tail.IsChain fun u w => runTogether u w = false := by
  have hwords : ∀ w ∈ words s, IsAsciiWord w := fun w hw =>
    have hw := isWordOf_of_mem_words hw
    ⟨hw.ne_nil, fun c hc => ⟨hs c (hw.mem c hc), hw.isAlphanumeric c hc⟩⟩
  rw [IsCamel, and_iff_right (isAlphanumeric_of_mem_camelCase hs), camelCase]
  cases hcut : words s with
  | nil => exact iff_of_true trivial .nil
  | cons first others =>
    rw [hcut] at hwords
    obtain ⟨⟨hne, hfirst⟩, hothers⟩ := List.forall_mem_cons.mp hwords
    rw [joinCamel, lower_of_isAsciiWord hfirst, capitalsBegin_append_lowered hfirst, List.tail_cons]
    cases others with
    | nil => exact iff_of_true trivial .nil
    | cons w ws =>
      obtain ⟨⟨hne', hw⟩, hws⟩ := List.forall_mem_cons.mp hothers
      obtain ⟨c, first, rfl⟩ := List.exists_cons_of_ne_nil hne
      obtain ⟨d, w, rfl⟩ := List.exists_cons_of_ne_nil hne'
      obtain ⟨hd, hw⟩ := List.forall_mem_cons.mp hw
      have hbegins : d.isAlpha = true → startsWord (((c :: first).map Char.toLower).getLastD ' ') d.toUpper
          (w.map Char.toLower ++ ws.flatMap capitalize) = true := by
        intro halpha
        simp only [startsWord, (toUpper_of_isAsciiLetter hd).2.2.1, halpha, isQuiet_getLastD hfirst, Bool.true_or, Bool.true_and]
      rw [List.flatMap_cons, capitalsBegin_capitalize hd hw, and_iff_right hbegins, capitalsBegin_flatMap_iff hd hw hws]

end Phrasebook.Text
