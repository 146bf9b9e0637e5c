import Phrasebook.Proofs.Number.Numerals
import Phrasebook.Proofs.Source.Strings

/-!
# Keys and literals of object literals

Keys and literals are read as the grammar has them (`takes_readKey_iff`, `takes_read?_iff`). What a literal is shows in its
first character (`literalText_cons_iff`); where names and numbers end is told by what follows them.
-/

namespace Phrasebook.Literal

open Json (Takes not_takes_none takes_some_iff takes_bind_iff takes_map_iff)
open Message (Blanks Stops stops_cons takeWhile_append dropWhile_append skipBlank_append skipBlank_split eq_false_of_isBlank)
open Text Unicode

variable {total start : Nat} {quote c : Char} {s t u v w key b : List Char} {literal : Literal} {p : Char → Bool}

/-! ## Strings and runs -/

/-- Whether an expected character is there is what its reader without errors tells. -/
theorem toOption_expect (total : Nat) (wanted : Char) (what : String) (s : List Char) :
    (expect total wanted what s).toOption = readChar? wanted s := by
  cases s with
  | nil => rfl
  | cons c s =>
    rw [expect, readChar?]
    split <;> rfl

/-- A string is read alike with and without its errors. -/
theorem toOption_readString (start : Nat) (quote : Char) (s : List Char) :
    (readString start quote s).toOption = readString? quote s := by
  unfold readString
  split
  · next h => exact h.symm
  · next h => exact h.symm

/-- A run of characters is told by what follows it. -/
theorem ofRun_iff (hstop : Stops p t) :
    (Read.ofRun p s).value = v ∧ (Read.ofRun p s).rest = t ↔ (∀ c ∈ v, p c = true) ∧ s = v ++ t := by
  constructor
  · rintro ⟨rfl, rfl⟩
    exact ⟨fun c hc => List.all_eq_true.mp List.all_takeWhile c hc, List.takeWhile_append_dropWhile.symm⟩
  · rintro ⟨hv, rfl⟩
    exact ⟨takeWhile_append hv hstop, dropWhile_append hv hstop⟩

/-! ## Keys -/

/-- A quoted text is read as a string between its quotes. -/
theorem takes_readString_iff (hquote : IsQuote quote) : Takes ((readString start quote s).toOption) v t ↔
    ∃ w, StringText quote w v ∧ quote :: s = quote :: (w ++ [quote]) ++ t := by
  rw [toOption_readString, takes_readString?_iff hquote]
  simp

/-- A key is read as the grammar has it where no name goes on. -/
theorem takes_readKey_iff (hstop : Stops isNameChar t) :
    Takes (readKey total s).toOption key t ↔ ∃ w, KeyText key w ∧ s = w ++ t := by
  cases s with
  | nil =>
    refine iff_of_false not_takes_none ?_
    rintro ⟨w, hw, h⟩
    cases hw <;> cases h
  | cons c s =>
    rw [readKey]
    split
    · next hc =>
      have hquote : IsQuote c := hc.elim .inl (.inr ∘ .inl)
      rw [toOption_bind]
      constructor
      · intro h
        obtain ⟨x, t', below, hread, hvalue⟩ := takes_bind_iff.mp h
        obtain ⟨w, hw, heq⟩ := (takes_readString_iff hquote).mp hread
        obtain ⟨rfl, rfl⟩ := takes_some_iff.mp hvalue
        exact ⟨_, .string hc hw, heq⟩
      · rintro ⟨w, hw, heq⟩
        cases hw with
        | name hname =>
          obtain ⟨rfl, -⟩ := List.cons.inj heq
          rcases hc with rfl | rfl <;> cases hname
        | string _ hw =>
          obtain ⟨rfl, -⟩ := List.cons.inj heq
          exact ((takes_readString_iff hquote).mpr ⟨_, hw, heq⟩).bind fun below => takes_some_iff.mpr ⟨rfl, rfl⟩
    · next hc =>
      have hquoted : ∀ {w}, KeyText key w → c :: s = w ++ t → startsName c = true ∧
          ∃ v, key = c :: v ∧ (∀ d ∈ v, isNameChar d = true) ∧ s = v ++ t := by
        intro w hw heq
        cases hw with
        | name hname hs =>
          obtain ⟨rfl, rfl⟩ := List.cons.inj heq
          exact ⟨hname, _, rfl, hs, rfl⟩
        | string hquote => exact absurd ((List.cons.inj heq).1 ▸ hquote) hc
      split
      · next hname =>
        rw [Except.toOption, takes_some_iff]
        constructor
        · rintro ⟨rfl, hrest⟩
          obtain ⟨hrun, hs⟩ := (ofRun_iff hstop).mp ⟨rfl, hrest⟩
          exact ⟨_, .name hname hrun, congrArg (c :: ·) hs⟩
        · rintro ⟨w, hw, heq⟩
          obtain ⟨-, v, rfl, hrun, hs⟩ := hquoted hw heq
          obtain ⟨hvalue, hrest⟩ := (ofRun_iff hstop).mpr ⟨hrun, hs⟩
          exact ⟨congrArg (c :: ·) hvalue, hrest⟩
      · next hname =>
        refine iff_of_false not_takes_none ?_
        rintro ⟨w, hw, heq⟩
        exact hname (hquoted hw heq).1

/-! ## Literals by their first character -/

/-- The names that are literals are the words of the grammar. -/
theorem ofName?_eq_some_iff {name : List Char} :
    ofName? (String.ofList name) = some literal ↔ WordText literal name := by
  constructor
  · intro h
    have hname : ∀ {word : String}, String.ofList name = word → name = word.toList := by
      rintro _ rfl
      exact String.toList_ofList.symm
    unfold ofName? at h
    split at h
    · next hword => exact Option.some.inj h ▸ hname hword ▸ .trueWord
    · next hword => exact Option.some.inj h ▸ hname hword ▸ .falseWord
    · next hword => exact Option.some.inj h ▸ hname hword ▸ .nullWord
    · next hword => exact Option.some.inj h ▸ hname hword ▸ .undefinedWord
    · cases h
  · rintro (_ | _ | _ | _) <;> rfl

/-- A word that is a literal is a name. -/
theorem WordText.isName (h : WordText literal w) :
    ∃ c v, w = c :: v ∧ startsName c = true ∧ startsNumber c = false ∧ ¬IsQuote c ∧ ∀ d ∈ v, isNameChar d = true := by
  cases h <;> exact ⟨_, _, rfl, by decide, by decide, by decide, List.all_eq_true.mp (by decide)⟩

/-- A text that names a number is a run of characters of numbers. -/
theorem isNumberChar_of_ofText? (h : (Number.ofText? s).isSome) : ∀ c ∈ s, isNumberChar c = true := by
  obtain ⟨x, hx⟩ := Option.isSome_iff_exists.mp h
  intro c hc
  have hnumeral := Number.isNumeralChar_of_ofText? hx c hc
  simp only [Number.isNumeralChar, isNumberChar, Bool.or_eq_true] at hnumeral ⊢
  exact or_right_comm.mp hnumeral

/-- A literal that begins with a quote is a string, one that begins like a number is a number, and any other is a word. -/
theorem literalText_cons_iff : (∃ w, LiteralText literal w ∧ c :: s = w ++ t) ↔
    if IsQuote c then ∃ v u, literal = .string v ∧ StringText c u v ∧ c :: s = c :: (u ++ [c]) ++ t
    else if startsNumber c then literal = .number ∧ ∃ v, (Number.ofText? (c :: v)).isSome ∧ s = v ++ t
    else startsName c = true ∧ ∃ v, WordText literal (c :: v) ∧ s = v ++ t := by
  constructor
  · rintro ⟨w, hw, heq⟩
    cases hw with
    | string hquote hw =>
      obtain ⟨rfl, -⟩ := List.cons.inj heq
      rw [if_pos hquote]
      exact ⟨_, _, rfl, hw, heq⟩
    | number hc hs =>
      obtain ⟨rfl, rfl⟩ := List.cons.inj heq
      have hquote : ¬IsQuote c := fun h => absurd hc (h.of_all (P := fun c => ¬startsNumber c = true) (by decide))
      rw [if_neg hquote, if_pos hc]
      exact ⟨rfl, _, hs, rfl⟩
    | word hw =>
      obtain ⟨d, v, rfl, hname, hnumber, hquote, -⟩ := hw.isName
      obtain ⟨rfl, rfl⟩ := List.cons.inj heq
      rw [if_neg hquote, if_neg (by simp [hnumber])]
      exact ⟨hname, v, hw, rfl⟩
  · intro h
    split at h
    · next hquote =>
      obtain ⟨v, u, rfl, hu, hs⟩ := h
      exact ⟨_, .string hquote hu, hs⟩
    · split at h
      · next hc =>
        obtain ⟨rfl, v, hv, rfl⟩ := h
        exact ⟨_, .number hc hv, rfl⟩
      · obtain ⟨-, v, hv, rfl⟩ := h
        exact ⟨_, .word hv, rfl⟩

/-! ## Literals -/

/-- A string is read as a literal. -/
theorem takes_string_iff (hquote : IsQuote c) :
    Takes (readString start c s >>= fun body => pure (some (body.map Literal.string).afterOne)).toOption.join literal t ↔
      ∃ v u, literal = .string v ∧ StringText c u v ∧ c :: s = c :: (u ++ [c]) ++ t := by
  have hread : (readString start c s >>= fun body => pure (some (body.map Literal.string).afterOne)).toOption.join =
      (readString start c s).toOption.map fun body => (body.map Literal.string).afterOne := by
    rw [toOption_bind]
    cases (readString start c s).toOption <;> rfl
  rw [hread, takes_map_iff (fun body => (body.map Literal.string).afterOne) Literal.string (fun _ => rfl) fun _ => rfl]
  simp only [takes_readString_iff hquote]
  constructor
  · rintro ⟨v, ⟨u, hu, hs⟩, rfl⟩
    exact ⟨v, u, rfl, hu, hs⟩
  · rintro ⟨v, u, rfl, hu, hs⟩
    exact ⟨v, ⟨u, hu, hs⟩, rfl⟩

/-- A number is read as a literal where no number goes on. -/
theorem takes_number_iff (hstop : Stops isNumberChar t) :
    Takes ((Number.ofText? (c :: (Read.ofRun isNumberChar s).value)).map fun _ =>
        (Read.ofRun isNumberChar s).map fun _ => Literal.number) literal t ↔
      literal = .number ∧ ∃ v, (Number.ofText? (c :: v)).isSome ∧ s = v ++ t := by
  have hread : Takes ((Number.ofText? (c :: (Read.ofRun isNumberChar s).value)).map fun _ =>
      (Read.ofRun isNumberChar s).map fun _ => Literal.number) literal t ↔
        (Number.ofText? (c :: (Read.ofRun isNumberChar s).value)).isSome ∧ literal = .number ∧
          (Read.ofRun isNumberChar s).rest = t := by
    cases Number.ofText? (c :: (Read.ofRun isNumberChar s).value) with
    | none => exact iff_of_false not_takes_none nofun
    | some => simp [takes_some_iff, eq_comm]
  refine hread.trans ⟨?_, ?_⟩
  · rintro ⟨hsome, rfl, hrest⟩
    exact ⟨rfl, _, hsome, ((ofRun_iff hstop).mp ⟨rfl, hrest⟩).2⟩
  · rintro ⟨rfl, v, hv, hs⟩
    have hrun : ∀ d ∈ v, isNumberChar d = true := fun d hd => isNumberChar_of_ofText? hv d (List.mem_cons_of_mem _ hd)
    obtain ⟨hvalue, hrest⟩ := (ofRun_iff hstop).mpr ⟨hrun, hs⟩
    exact ⟨hvalue ▸ hv, rfl, hrest⟩

/-- A word is read as a literal where no name goes on. -/
theorem takes_word_iff (hstop : Stops isNameChar t) :
    Takes ((ofName? (String.ofList (readName c s).value)).map fun literal => (readName c s).map fun _ => literal) literal t ↔
      ∃ v, WordText literal (c :: v) ∧ s = v ++ t := by
  have hread : Takes ((ofName? (String.ofList (readName c s).value)).map fun literal =>
      (readName c s).map fun _ => literal) literal t ↔
        WordText literal (readName c s).value ∧ (readName c s).rest = t := by
    rw [← ofName?_eq_some_iff]
    cases ofName? (String.ofList (readName c s).value) with
    | none => exact iff_of_false not_takes_none nofun
    | some => simp [takes_some_iff]
  refine hread.trans ⟨?_, ?_⟩
  · rintro ⟨hword, hrest⟩
    exact ⟨_, hword, ((ofRun_iff hstop).mp ⟨rfl, hrest⟩).2⟩
  · rintro ⟨v, hword, hs⟩
    obtain ⟨d, v', heq, -, -, -, hrun⟩ := hword.isName
    obtain ⟨-, rfl⟩ := List.cons.inj heq
    obtain ⟨hvalue, hrest⟩ := (ofRun_iff hstop).mpr ⟨hrun, hs⟩
    have hname : (readName c s).value = c :: v := congrArg (c :: ·) hvalue
    exact ⟨hname ▸ hword, hrest⟩

/-- A literal is read as the grammar has it where neither a name nor a number goes on. -/
theorem takes_readSimple?_iff (hname : Stops isNameChar t) (hnumber : Stops isNumberChar t) :
    Takes (readSimple? total s).toOption.join literal t ↔ ∃ w, LiteralText literal w ∧ s = w ++ t := by
  cases s with
  | nil =>
    refine iff_of_false not_takes_none ?_
    rintro ⟨w, hw, h⟩
    cases hw with
    | string | number => cases h
    | word hw => obtain ⟨c, v, rfl, -⟩ := hw.isName; cases h
  | cons c s =>
    rw [readSimple?, literalText_cons_iff]
    by_cases hquote : IsQuote c
    · rw [if_pos hquote, if_pos (show c = '\'' ∨ c = '"' ∨ c.toNat = 0x60 from hquote)]
      exact takes_string_iff hquote
    · rw [if_neg hquote, if_neg (show ¬(c = '\'' ∨ c = '"' ∨ c.toNat = 0x60) from hquote)]
      by_cases hstart : startsNumber c = true
      · rw [if_pos hstart, if_pos hstart]
        exact takes_number_iff hnumber
      · rw [if_neg hstart, if_neg hstart]
        by_cases hletter : startsName c = true
        · rw [if_pos hletter, and_iff_right hletter]
          exact takes_word_iff hname
        · rw [if_neg hletter]
          exact iff_of_false not_takes_none fun h => hletter h.1

/-- White space ends a name. -/
theorem isNameChar_of_isBlank (h : isBlank c = true) : isNameChar c = false := by
  have hunderscore : c ≠ '_' := by
    rintro rfl
    cases h
  have hdollar : c ≠ '$' := by
    rintro rfl
    cases h
  simp [isNameChar, Message.isAlphanumeric_of_isBlank h, hunderscore, hdollar]

/-- White space ends a number. -/
theorem isNumberChar_of_isBlank (h : isBlank c = true) : isNumberChar c = false := eq_false_of_isBlank (by decide) h

/-- No name and no number goes on where a literal may end. -/
theorem stops_of_endsLiteral (hend : endsLiteral t = true) : Stops isNameChar t ∧ Stops isNumberChar t := by
  cases t with
  | nil => exact ⟨nofun, nofun⟩
  | cons c t =>
    simp only [endsLiteral, Bool.or_eq_true, beq_iff_eq] at hend
    rcases hend with rfl | rfl
    · exact ⟨stops_cons (by decide), stops_cons (by decide)⟩
    · exact ⟨stops_cons (by decide), stops_cons (by decide)⟩

/-- A literal is read with the white space behind it as the grammar has it. -/
theorem takes_read?_iff : Takes ((read? total s).toOption.join) literal t ↔
    (Stops isBlank t ∧ endsLiteral t = true) ∧ ∃ w b, LiteralText literal w ∧ Blanks b ∧ s = w ++ (b ++ t) := by
  have hread : (read? total s).toOption.join = (readSimple? total s).toOption.join >>= fun literal =>
      if endsLiteral (skipBlank literal.rest) then
        some (literal.andThen (skippedBlank literal.value literal.rest)) else none := by
    rw [read?, toOption_bind]
    cases (readSimple? total s).toOption with
    | none => rfl
    | some found =>
      cases found with
      | none => rfl
      | some literal => simp only [Option.bind_some, Option.join_some, bind]; split <;> rfl
  rw [hread]
  constructor
  · intro h
    obtain ⟨x, t', below, hsimple, h⟩ := takes_bind_iff.mp h
    split at h
    · next hend =>
      obtain ⟨rfl, rfl⟩ := takes_some_iff.mp h
      obtain ⟨b, hb, ht, hstop⟩ := skipBlank_split t'
      have hname := hb.stops_append (fun _ => isNameChar_of_isBlank) (stops_of_endsLiteral hend).1
      have hnumber := hb.stops_append (fun _ => isNumberChar_of_isBlank) (stops_of_endsLiteral hend).2
      rw [← ht] at hname hnumber
      obtain ⟨w, hw, hs⟩ := (takes_readSimple?_iff hname hnumber).mp hsimple
      exact ⟨⟨hstop, hend⟩, w, b, hw, hb, hs.trans (congrArg (w ++ ·) ht)⟩
    · exact absurd h not_takes_none
  · rintro ⟨⟨hstop, hend⟩, w, b, hw, hb, rfl⟩
    have hname := hb.stops_append (fun _ => isNameChar_of_isBlank) (stops_of_endsLiteral hend).1
    have hnumber := hb.stops_append (fun _ => isNumberChar_of_isBlank) (stops_of_endsLiteral hend).2
    have hskip : skipBlank (b ++ t) = t := skipBlank_append hb hstop
    refine ((takes_readSimple?_iff hname hnumber).mpr ⟨w, hw, rfl⟩).bind fun below => ?_
    rw [if_pos (by rw [hskip]; exact hend)]
    exact takes_some_iff.mpr ⟨rfl, hskip⟩

/-! ## First characters -/

/-- A name may go on with all that it may start with. -/
theorem isNameChar_of_startsName (h : startsName c = true) : isNameChar c = true := by
  simp only [startsName, isNameChar, isAlphanumeric, Bool.or_eq_true] at h ⊢
  rcases h with (hletter | hunderscore) | hdollar
  · exact .inl (.inl (.inl hletter))
  · exact .inl (.inr hunderscore)
  · exact .inr hdollar

/-- So may a number. -/
theorem isNumberChar_of_startsNumber (h : startsNumber c = true) : isNumberChar c = true := by
  simp only [startsNumber, isNumberChar, Char.isAlphanum, Bool.or_eq_true] at h ⊢
  rcases h with ((hdigit | hminus) | hplus) | hpoint
  · exact .inl (.inl (.inl (.inr hdigit)))
  · exact .inl (.inr hminus)
  · exact .inr hplus
  · exact .inl (.inl (.inr hpoint))

/-- No name starts with white space. -/
theorem isBlank_of_startsName (h : startsName c = true) : isBlank c = false :=
  Bool.eq_false_iff.mpr fun hblank => by
    have hnot := isNameChar_of_isBlank hblank
    rw [isNameChar_of_startsName h] at hnot
    cases hnot

/-- No number starts with white space. -/
theorem isBlank_of_startsNumber (h : startsNumber c = true) : isBlank c = false :=
  Bool.eq_false_iff.mpr fun hblank => by
    have hnot := isNumberChar_of_isBlank hblank
    rw [isNumberChar_of_startsNumber h] at hnot
    cases hnot

/-- Quotes are not white space. -/
theorem IsQuote.isBlank (h : IsQuote c) : isBlank c = false :=
  h.of_all (P := fun c => Unicode.isBlank c = false) (by decide)

/-- A key begins with a visible character that is no brace. -/
theorem KeyText.exists_cons (h : KeyText key w) : ∃ c v, w = c :: v ∧ isBlank c = false ∧ c ≠ '}' := by
  cases h with
  | name hc =>
    refine ⟨_, _, rfl, isBlank_of_startsName hc, ?_⟩
    rintro rfl
    revert hc
    decide
  | string hc => rcases hc with rfl | rfl <;> exact ⟨_, _, rfl, by decide, by decide⟩

/-- A literal begins with a visible character. -/
theorem LiteralText.stops (h : LiteralText literal w) : Stops isBlank (w ++ t) := by
  cases h with
  | string hquote => exact stops_cons hquote.isBlank
  | number hc => exact stops_cons (isBlank_of_startsNumber hc)
  | word h =>
    obtain ⟨c, v, rfl, hname, -⟩ := h.isName
    exact stops_cons (isBlank_of_startsName hname)

end Phrasebook.Literal
