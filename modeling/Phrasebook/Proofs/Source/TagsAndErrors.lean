import Phrasebook.Proofs.Source.ShortCalls

/-!
# Tags and errors with an id

What the rules for tags and for errors match where such a call is written with an id of letters, digits, underscores and dots. The
match of a tag is the tag (`ends_tag`). The match of an error goes on to the last closing parenthesis of the line (`ends_error`),
since what may stand behind the id is any text and as much of it as can be.
-/

namespace Phrasebook.Standard

open Regex Unicode

variable {s id : List Char} {a b e i j k x : Nat} {c : Char} {q : Regex.Place}

/-! ## Ids -/

/-- May the character stand in an id, whatever the call? -/
def isNameChar (c : Char) : Bool := c.isAlphanum || c == '_' || c == '.'

theorem isIdChar_of_isNameChar (h : isNameChar c = true) : isIdChar c = true := by
  simp only [isNameChar, Bool.or_eq_true] at h
  simp only [isIdChar, Bool.or_eq_true]
  exact .inl h

/-- The rules take a character of such an id as it is. -/
theorem has_of_isNameChar (h : isNameChar c = true) : (allBut '"').has c.toNat = true ∧ wordOrDot.has c.toNat = true := by
  have hlt := toNat_lt_of_isIdChar (isIdChar_of_isNameChar h)
  obtain ⟨hallBut, hwordOrDot⟩ := forall_ascii (P := fun c => isNameChar c = true → (allBut '"').has c.toNat = true ∧
    (c.isAlphanum || c.toNat == 95 || c.toNat == 46) = true) (by decide) hlt h
  refine ⟨hallBut, ?_⟩
  rw [has_wordOrDot _ hlt, Char.ofNat_toNat]
  exact hwordOrDot

/-- A character that stands in no id is none of its characters. -/
theorem ne_of_isNameChar {d : Char} (h : isNameChar c = true) (hd : isNameChar d = false) : c ≠ d := by
  rintro rfl
  cases h.symm.trans hd

/-- An id of letters, digits, underscores and dots. -/
structure IsName (id : List Char) : Prop where
  nonempty : id ≠ []
  nameChars : ∀ c ∈ id, isNameChar c = true

/-! ## Tags -/

/-- A tag from `i` on, with its id between `a` and the quote at `b`, and its end at `e`. -/
structure Tag (s : List Char) (i a b e : Nat) : Prop where
  name : "<FormattedMessage".toList <+: s.drop i
  gap : i + 17 < a ∧ Run s Property.whiteSpace (i + 17) a
  property : ['i', 'd', '=', '"'] <+: s.drop a
  inside : a + 4 < b ∧ Run s (allBut '"') (a + 4) b
  closing : s[b]? = some '"'
  after : Run s Property.whiteSpace (b + 1) e
  stop : ['/', '>'] <+: s.drop e

/-- In a text without braces the rule ends behind a tag, whose id is the first group. -/
theorem mem_ends_tag_iff (h : '{' ∉ s) : q ∈ tag.matcher.plan.ends (placeAt s i []) ↔
    ∃ a b e, Tag s i a b e ∧ q = placeAt s (e + 2) [(1, a + 4, b)] := by
  obtain ⟨values, hwrites, hplan⟩ : ∃ values : Plan, values.writes ['{'] = true ∧ tag.matcher.plan =
    .sequence (.text "<FormattedMessage".toList) (.sequence (.repeated 0 false (.oneOf Property.whiteSpace))
      (.sequence (.text ['i', 'd', '=', '"']) (.sequence (.group 1 (.repeated 1 false (.oneOf (allBut '"'))))
        (.sequence (.text ['"']) (.sequence (.choice 8 values .done) (.sequence (.loop 9 false (.oneOf Property.whiteSpace))
          (.text ['/', '>']))))))) := ⟨_, by decide, rfl⟩
  have hvalues : ∀ {i groups} rest, ¬ q ∈ (Plan.sequence values rest).ends (placeAt s i groups) := fun rest hq => by
    obtain ⟨r, hr, -⟩ := mem_ends_sequence_iff.mp hq
    have hbrace := (infix_of_mem_ends hwrites hr).trans (List.drop_suffix _ s).isInfix
    exact h (hbrace.subset (List.mem_singleton_self _))
  have hlength : "<FormattedMessage".toList.length = 17 := by decide
  rw [hplan, mem_ends_text_then_iff, hlength]
  simp only [mem_ends_repeated_then_iff, mem_ends_text_then_iff]
  simp only [mem_ends_group_then_iff (fun _ => mem_ends_repeated_oneOf_iff), mem_ends_char_then_iff, mem_ends_optional_then_iff,
    hvalues, false_or, mem_ends_loop_then_iff, mem_ends_text_iff, List.length_cons, List.length_nil, Nat.reduceAdd]
  constructor
  · rintro ⟨hname, a, hgap, hproperty, b, hinside, hclosing, e, hafter, hstop, rfl⟩
    exact ⟨a, b, e, ⟨hname, hgap, hproperty, hinside, hclosing, hafter, hstop⟩, rfl⟩
  · rintro ⟨a, b, e, ⟨hname, hgap, hproperty, hinside, hclosing, hafter, hstop⟩, rfl⟩
    exact ⟨hname, a, hgap, hproperty, b, hinside, hclosing, e, hafter, hstop, rfl⟩

/-- A tag with an id, as it is written. -/
def tagText (id : List Char) : List Char := "<FormattedMessage id=\"".toList ++ id ++ "\" />".toList

/-- Where a tag is written, the rule matches it and nothing else. -/
theorem ends_tag (hbrace : '{' ∉ s) (hid : IsName id) (h : tagText id <+: s.drop k) :
    (tag.matcher.plan.ends (placeAt s k [])).head? =
      some (placeAt s (k + 22 + id.length + 4) [(1, k + 22, k + 22 + id.length)]) := by
  have hlength : "<FormattedMessage id=\"".toList.length = 22 := by decide
  have hlengthName : "<FormattedMessage".toList.length = 17 := by decide
  have hopening : "<FormattedMessage id=\"".toList = "<FormattedMessage".toList ++ [' '] ++ ['i', 'd', '=', '"'] := by decide
  have hclosing : "\" />".toList = ['"'] ++ [' '] ++ ['/', '>'] := by decide
  have hpos := List.length_pos_iff.mpr hid.nonempty
  -- what stands where
  obtain ⟨hbefore, hidAt, hend⟩ := parts_of_drop h
  rw [hlength] at hidAt hend
  obtain ⟨hname, hgap, hproperty⟩ := parts_of_drop (hopening ▸ hbefore)
  rw [hlengthName] at hgap hproperty
  obtain ⟨hquote, hblank, hstop⟩ := parts_of_drop (hclosing ▸ hend)
  have hi : s[k + 18]? = some 'i' := getElem?_of_drop (n := 0) hproperty (by decide)
  have hquoteAt : s[k + 22 + id.length]? = some '"' := getElem?_of_drop (n := 0) hquote (by decide)
  have hslash : s[k + 22 + id.length + 2]? = some '/' := getElem?_of_drop (n := 0) hstop (by decide)
  have hspace : ∀ c ∈ [' '], Property.whiteSpace.has c.toNat = true := List.forall_mem_singleton.mpr (by decide)
  have hinside : ∀ c ∈ id, (allBut '"').has c.toNat = true := fun c hc => (has_of_isNameChar (hid.nameChars c hc)).1
  refine head?_eq_of_forall_mem (fun q hq => ?_) ((mem_ends_tag_iff hbrace).mpr ?_)
  · obtain ⟨a, b, e, htag, rfl⟩ := (mem_ends_tag_iff hbrace).mp hq
    obtain rfl : a = k + 18 :=
      htag.gap.2.eq_of_text hgap hspace hi (by decide) (getElem?_of_drop (n := 0) htag.property (by decide))
    obtain rfl : b = k + 22 + id.length := htag.inside.2.eq_of_text hidAt hinside hquoteAt (by decide) htag.closing
    obtain rfl : e = k + 22 + id.length + 2 :=
      htag.after.eq_of_text hblank hspace hslash (by decide) (getElem?_of_drop (n := 0) htag.stop (by decide))
    rfl
  · exact ⟨k + 18, k + 22 + id.length, k + 22 + id.length + 2, ⟨hname, ⟨by omega, run_of_drop hgap hspace⟩, hproperty,
      ⟨by omega, run_of_drop hidAt hinside⟩, hquoteAt, run_of_drop hblank hspace, hstop⟩, rfl⟩

/-! ## Errors -/

/-- An error with an id, as it is written. -/
def errorText (id : List Char) : List Char := "Meteor.Error(400, '".toList ++ id ++ "')".toList

theorem plan_error : error.matcher.plan =
    .sequence (.text "Meteor.Error(".toList) (.sequence (.repeated 0 false (.oneOf Category.decimalNumber))
      (.sequence (.text [',']) (.sequence (.choice 1 (.sequence (.oneOf Property.whiteSpace) .done) .done)
        (.sequence (.text ['\'']) (.sequence (.group 1 (.repeated 2 false (.oneOf wordOrDot))) (.sequence (.text ['\''])
          (.sequence (.loop 3 false (.oneOf notLineFeed)) (.text [')'])))))))) := rfl

theorem has_notLineFeed (h : c ≠ '\n') : notLineFeed.has c.toNat = true := by
  have hfeed : c = '\n' ↔ c.toNat = 10 := by rw [← Char.toNat_inj]; rfl
  have hlast := toNat_le_lastCodePoint c
  rw [ne_eq, hfeed] at h
  simp only [notLineFeed, Ranges.has]
  simp
  omega

/-- Where an error is written, in a line that ends in a parenthesis, the rule takes the rest of the line for a part of it. -/
theorem ends_error (hfeed : '\n' ∉ s) (hlast : s.getLast? = some ')') (hid : IsName id) (h : errorText id <+: s.drop k) :
    (error.matcher.plan.ends (placeAt s k [])).head? = some (placeAt s s.length [(1, k + 19, k + 19 + id.length)]) := by
  have hlength : "Meteor.Error(400, '".toList.length = 19 := by decide
  have hlengthName : "Meteor.Error(".toList.length = 13 := by decide
  have hopening : "Meteor.Error(400, '".toList = "Meteor.Error(".toList ++ ['4', '0', '0'] ++ [',', ' ', '\''] := by decide
  -- what stands where
  obtain ⟨hbefore, hidAt, hend⟩ := parts_of_drop h
  rw [hlength] at hidAt hend
  obtain ⟨hname, hdigits, hmarks⟩ := parts_of_drop (hopening ▸ hbefore)
  rw [hlengthName] at hdigits hmarks
  have hcomma : s[k + 16]? = some ',' := getElem?_of_drop (n := 0) hmarks (by decide)
  have hblank : s[k + 17]? = some ' ' := getElem?_of_drop (n := 1) hmarks (by decide)
  have hquote : s[k + 18]? = some '\'' := getElem?_of_drop (n := 2) hmarks (by decide)
  have hclosing : s[k + 19 + id.length]? = some '\'' := getElem?_of_drop (n := 0) hend (by decide)
  have hparenthesis : s[k + 19 + id.length + 1]? = some ')' := getElem?_of_drop (n := 1) hend (by decide)
  -- up to the id there is one way to go on, and behind it the loop goes as far as it can
  have hdigit : ∀ c ∈ ['4', '0', '0'], Category.decimalNumber.has c.toNat = true := List.all_eq_true.mp (by decide)
  have hcount : k + 13 + ['4', '0', '0'].length + 1 = k + 17 := rfl
  have hinside : ∀ c ∈ id, wordOrDot.has c.toNat = true := fun c hc => (has_of_isNameChar (hid.nameChars c hc)).2
  rw [plan_error, head?_ends_text_then hname, hlengthName,
    head?_ends_repeated_char_then hdigits (by decide) hdigit hcomma (by decide), hcount,
    head?_ends_optional_char_then hblank (by decide) (by decide), head?_ends_char_then hquote,
    head?_ends_group_repeated_char_then hidAt hid.nonempty hinside hclosing (has_wordOrDot 39 (by decide))]
  exact head?_ends_loop_then_last (fun c hc => has_notLineFeed fun heq => hfeed (heq ▸ hc)) hlast
    (List.getElem?_eq_some_iff.mp hparenthesis).1

end Phrasebook.Standard
