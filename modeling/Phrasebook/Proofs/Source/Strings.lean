import Phrasebook.Proofs.Json.Strings
import Phrasebook.Proofs.Source.Grammar

/-!
# Strings of object literals

What is read up to the closing quote of a string is told by the grammar (`takes_readString?_iff`). How the letter of a code
point is read depends on what follows; but no code point text holds a quote, so that nothing behind the string matters.
-/

namespace Phrasebook

open Json (Takes not_takes_none takes_some_iff takes_bind_iff takes_map_iff)
open Text

variable {α β ε : Type} {n m : Nat} {quote c d closing : Char} {s t u v w rest digits before : List Char}

/-! ## Readers without their errors -/

theorem toOption_bind (x : Except ε α) (f : α → Except ε β) :
    (x >>= f).toOption = x.toOption >>= fun a => (f a).toOption := by
  cases x <;> rfl

theorem toOption_eq_some_iff {x : Except ε α} {a : α} : x.toOption = some a ↔ x = .ok a := by
  cases x <;> simp [Except.toOption]

/-- A reader that may find nothing, and one in turn that needs something. -/
theorem takes_bind_join_iff {first : Option (Option (Read α n))} {next : Option (Read α n) → Option (Read β m)} {value : β}
    (hnone : next none = none) : Takes (first >>= next) value rest ↔
      ∃ x t, ∃ below : t.length < n, Takes first.join x t ∧ Takes (next (some ⟨x, t, below⟩)) value rest := by
  have hjoin : first >>= next = first.join >>= fun read => next (some read) := by
    cases first with
    | none => rfl
    | some found =>
      cases found with
      | none => exact hnone
      | some => rfl
  rw [hjoin, takes_bind_iff]

/-! ## Single characters -/

theorem takes_readChar?_iff : Takes (readChar? c s) () rest ↔ s = c :: rest := by
  constructor
  · rintro ⟨below, h⟩
    exact eq_of_readChar? h
  · exact readChar?_cons c

/-- What is read through a character is what stands before its first occurrence. -/
theorem takes_readThrough?_iff : Takes (readThrough? closing s) before rest ↔
    s = before ++ closing :: rest ∧ closing ∉ before := by
  induction s generalizing before with
  | nil =>
    refine iff_of_false not_takes_none ?_
    rintro ⟨h, -⟩
    cases before <;> cases h
  | cons c s ih =>
    rw [readThrough?]
    split
    · next hc =>
      rw [takes_some_iff, Read.value_first, Read.rest_first, hc]
      cases before with
      | nil => simp
      | cons d before =>
        refine iff_of_false nofun ?_
        rintro ⟨h, hmem⟩
        exact hmem ((List.cons.inj h).1 ▸ List.mem_cons_self)
    · next hc =>
      rw [takes_map_iff (fun read => (read.map (c :: ·)).afterOne) (c :: ·) (fun _ => rfl) fun _ => rfl]
      simp only [ih]
      constructor
      · rintro ⟨before, ⟨rfl, hmem⟩, rfl⟩
        exact ⟨rfl, by simp [Ne.symm hc, hmem]⟩
      · rintro ⟨h, hmem⟩
        cases before with
        | nil => exact absurd (List.cons.inj h).1 hc
        | cons d before =>
          obtain ⟨rfl, rfl⟩ := List.cons.inj h
          exact ⟨before, ⟨rfl, fun h => hmem (List.mem_cons_of_mem _ h)⟩, rfl⟩

namespace Literal

/-! ## Code points -/

theorem isSome_of_hexNumber? {k : Nat} (h : hexNumber? digits = some k) : ∀ c ∈ digits, (hexValue? c).isSome := by
  have hfold : ∀ (digits : List Char) (k l : Nat),
      digits.foldlM (fun n c => (hexValue? c).map (16 * n + ·)) k = some l → ∀ c ∈ digits, (hexValue? c).isSome := by
    intro digits
    induction digits with
    | nil => exact fun _ _ _ => nofun
    | cons d digits ih =>
      intro k l h c hc
      rw [List.foldlM_cons] at h
      obtain ⟨k', hd, hrest⟩ := Option.bind_eq_some_iff.mp h
      obtain ⟨x, hx, -⟩ := Option.map_eq_some_iff.mp hd
      rcases List.mem_cons.mp hc with rfl | hc
      · rw [hx]; rfl
      · exact ih k' l hrest c hc
  cases digits with
  | nil => cases h
  | cons d digits => exact hfold _ _ _ h

/-- May the character stand in the text of a code point, braces apart? -/
def isCodeChar (c : Char) : Bool := c == '+' || (hexValue? c).isSome

theorem isCodeChar_of_escapedNumber? (h : (escapedNumber? digits).bind charOf? = some c) :
    ∀ d ∈ digits, isCodeChar d = true := by
  obtain ⟨k, hk, -⟩ := Option.bind_eq_some_iff.mp h
  intro d hd
  unfold escapedNumber? at hk
  split at hk
  · next digits =>
    rcases List.mem_cons.mp hd with rfl | hd
    · rfl
    · simp [isCodeChar, isSome_of_hexNumber? hk d hd]
  · simp [isCodeChar, isSome_of_hexNumber? hk d hd]

theorem IsQuote.of_all {P : Char → Prop} (h : IsQuote c) (hall : P '\'' ∧ P '"' ∧ P (Char.ofNat 0x60)) : P c := by
  obtain ⟨hsingle, hdouble, hback⟩ := hall
  rcases h with rfl | rfl | h
  · exact hsingle
  · exact hdouble
  · rwa [← Char.ofNat_toNat c, h]

theorem IsQuote.isCodeChar (h : IsQuote c) : isCodeChar c = false ∧ c ≠ '{' ∧ c ≠ '}' ∧ c ≠ '\\' :=
  h.of_all (P := fun c => Literal.isCodeChar c = false ∧ c ≠ '{' ∧ c ≠ '}' ∧ c ≠ '\\') (by decide)

/-- No quote stands in the text of a code point. -/
theorem CodePointText.not_mem (h : CodePointText c u) (hquote : IsQuote quote) : quote ∉ u := by
  obtain ⟨hcode, hopen, hclose, -⟩ := hquote.isCodeChar
  intro hmem
  cases h with
  | four hc =>
    rw [isCodeChar_of_escapedNumber? hc quote hmem] at hcode
    cases hcode
  | braced hc =>
    rcases List.mem_cons.mp hmem with h | hmem
    · exact hopen h
    · rcases List.mem_append.mp hmem with hmem | hmem
      · rw [isCodeChar_of_escapedNumber? hc quote hmem] at hcode
        cases hcode
      · exact hclose (List.mem_singleton.mp hmem)

/-- A code point is read as the grammar has it. -/
theorem takes_readCodePoint?_iff : Takes (readCodePoint? s) c rest ↔ ∃ u, CodePointText c u ∧ s = u ++ rest := by
  have hdigits : ∀ {digits : List Char} {k : Nat} {f : Char → Read Char k} {t : List Char},
      (∀ e, (f e).value = e ∧ (f e).rest = t) →
      (Takes (((escapedNumber? digits).bind charOf?).map f) c rest ↔
        (escapedNumber? digits).bind charOf? = some c ∧ t = rest) := by
    intro digits k f t hf
    cases (escapedNumber? digits).bind charOf? with
    | none => exact iff_of_false not_takes_none nofun
    | some e => rw [Option.map_some, takes_some_iff, (hf e).1, (hf e).2, Option.some_inj]
  -- digits in braces have no brace among them, and four digits do not begin with one
  have hbraced : ∀ {t digits}, (escapedNumber? digits).bind charOf? = some c → '{' :: t = '{' :: (digits ++ ['}']) ++ rest →
      Takes (readThrough? '}' t) digits rest := by
    intro t digits hc ht
    refine takes_readThrough?_iff.mpr ⟨by simpa using ht, fun hmem => ?_⟩
    exact absurd (isCodeChar_of_escapedNumber? hc _ hmem) (by decide)
  have hfour : ∀ {a b d e}, (escapedNumber? [a, b, d, e]).bind charOf? = some c → a ≠ '{' := by
    rintro _ b d e hc rfl
    exact absurd (isCodeChar_of_escapedNumber? hc _ List.mem_cons_self) (by decide)
  fun_cases readCodePoint? s with
  | case1 t hnone =>
    rw [readCodePoint?, hnone]
    refine iff_of_false not_takes_none ?_
    rintro ⟨u, hu, ht⟩
    cases hu with
    | four hc => exact hfour hc (List.cons.inj ht).1.symm
    | braced hc => exact not_takes_none (hnone ▸ hbraced hc ht)
  | case2 t digits hread =>
    rw [readCodePoint?, hread]
    refine (hdigits (t := digits.rest) ?_).trans ?_
    · exact fun e => ⟨rfl, rfl⟩
    constructor
    · rintro ⟨hc, rfl⟩
      obtain ⟨ht, -⟩ := takes_readThrough?_iff.mp ⟨digits.below, hread⟩
      exact ⟨_, .braced hc, by simpa using ht⟩
    · rintro ⟨u, hu, ht⟩
      cases hu with
      | four hc => exact absurd (List.cons.inj ht).1.symm (hfour hc)
      | braced hc =>
        have htakes := hbraced hc ht
        rw [hread, takes_some_iff] at htakes
        exact ⟨htakes.1 ▸ hc, htakes.2⟩
  | case3 a b d e t hbrace =>
    rw [readCodePoint?.eq_2 a b d e t hbrace]
    refine (hdigits (t := t) ?_).trans ?_
    · exact fun e => ⟨rfl, rfl⟩
    constructor
    · rintro ⟨hc, rfl⟩
      exact ⟨_, .four hc, rfl⟩
    · rintro ⟨u, hu, ht⟩
      cases hu with
      | four hc =>
        simp only [List.cons_append, List.nil_append, List.cons.injEq] at ht
        obtain ⟨rfl, rfl, rfl, rfl, rfl⟩ := ht
        exact ⟨hc, rfl⟩
      | braced hc => exact absurd (List.cons.inj ht).1 hbrace
  | case4 _ hopen hshort =>
    rw [readCodePoint?.eq_3 s hopen hshort]
    refine iff_of_false not_takes_none ?_
    rintro ⟨u, hu, rfl⟩
    cases hu with
    | four hc => exact hshort _ _ _ _ _ rfl
    | braced hc => exact hopen _ rfl

/-! ## Parts of strings -/

/-- No code point is read exactly where no text of one begins. -/
theorem readCodePoint?_eq_none_iff : readCodePoint? s = none ↔ ∀ d u, CodePointText d u → ¬u <+: s := by
  constructor
  · rintro h d u hu ⟨t, rfl⟩
    exact not_takes_none (h ▸ takes_readCodePoint?_iff.mpr ⟨u, hu, rfl⟩)
  · intro h
    refine Option.eq_none_iff_forall_ne_some.mpr fun point hpoint => ?_
    obtain ⟨u, hu, hs⟩ := takes_readCodePoint?_iff.mp ⟨point.below, hpoint⟩
    exact h _ u hu ⟨point.rest, hs.symm⟩

/-- Behind a backslash stands a letter, or a code point behind its letter. -/
theorem takes_readEscape?_iff : Takes (readEscape? s) d t ↔
    (∃ c, s = c :: t ∧ escaped c = d ∧ (c = 'u' → ∀ e u, CodePointText e u → ¬u <+: t)) ∨
      ∃ u, CodePointText d u ∧ s = 'u' :: (u ++ t) := by
  cases s with
  | nil => exact iff_of_false not_takes_none (by simp)
  | cons c s =>
    rw [readEscape?]
    cases hpoint : (if c = 'u' then readCodePoint? s else none) with
    | some point =>
      have hc : c = 'u' := Decidable.byContradiction fun hne => by
        rw [if_neg hne] at hpoint
        cases hpoint
      rw [if_pos hc] at hpoint
      have hread : ∀ {e t}, Takes (readCodePoint? s) e t ↔ point.value = e ∧ point.rest = t := by
        rw [hpoint]
        exact takes_some_iff
      rw [takes_some_iff, Read.value_afterOne, Read.rest_afterOne, ← hread, takes_readCodePoint?_iff]
      constructor
      · rintro ⟨u, hu, rfl⟩
        exact .inr ⟨u, hu, by rw [hc]⟩
      · rintro (⟨c', heq, -, hnone⟩ | ⟨u, hu, heq⟩)
        · obtain ⟨rfl, rfl⟩ := List.cons.inj heq
          obtain ⟨u, hu, hs⟩ := takes_readCodePoint?_iff.mp (hread.mpr ⟨rfl, rfl⟩)
          exact absurd ⟨_, hs.symm⟩ (hnone hc _ u hu)
        · exact ⟨u, hu, (List.cons.inj heq).2⟩
    | none =>
      have hnone : c = 'u' → ∀ e u, CodePointText e u → ¬u <+: s := by
        intro hc
        rw [if_pos hc] at hpoint
        exact readCodePoint?_eq_none_iff.mp hpoint
      rw [takes_some_iff, Read.value_first, Read.rest_first]
      constructor
      · rintro ⟨hd, rfl⟩
        exact .inl ⟨c, rfl, hd, hnone⟩
      · rintro (⟨c', heq, hd, -⟩ | ⟨u, hu, heq⟩)
        · obtain ⟨rfl, rfl⟩ := List.cons.inj heq
          exact ⟨hd, rfl⟩
        · obtain ⟨hc, rfl⟩ := List.cons.inj heq
          exact absurd (List.prefix_append u t) (hnone hc _ u hu)

/-- A part of a string is read as the grammar has it. -/
theorem takes_readUnit?_iff (hs : s.head? ≠ some quote) :
    Takes (readUnit? quote s) v t ↔ ∃ u, UnitText quote t u v ∧ s = u ++ t := by
  cases s with
  | nil =>
    refine iff_of_false not_takes_none ?_
    rintro ⟨u, hu, h⟩
    cases hu <;> cases h
  | cons c s =>
    have hc : c ≠ quote := fun h => hs (congrArg some h)
    rw [readUnit?]
    split
    · next hslash =>
      rw [takes_map_iff (fun e => (e.map fun e => [e]).afterOne) (fun e => [e]) (fun _ => rfl) fun _ => rfl]
      simp only [takes_readEscape?_iff]
      constructor
      · rintro ⟨d, ⟨c', rfl, rfl, hpoint⟩ | ⟨u, hu, rfl⟩, rfl⟩
        · exact ⟨_, .escape hpoint, by rw [hslash]; rfl⟩
        · exact ⟨_, .codePoint hu, by rw [hslash]; rfl⟩
      · rintro ⟨u, hu, heq⟩
        cases hu with
        | plain _ hne => exact absurd ((List.cons.inj heq).1.symm.trans hslash) hne
        | dollar => exact absurd ((List.cons.inj heq).1.symm.trans hslash) (by decide)
        | @escape c' hpoint => exact ⟨_, .inl ⟨c', (List.cons.inj heq).2, rfl, hpoint⟩, rfl⟩
        | @codePoint d u hpoint => exact ⟨d, .inr ⟨u, hpoint, (List.cons.inj heq).2⟩, rfl⟩
    · next hslash =>
      split
      · next hdollar =>
        obtain ⟨rfl, hquote, hbrace⟩ := hdollar
        rw [takes_some_iff, Read.value_first, Read.rest_first]
        constructor
        · rintro ⟨rfl, rfl⟩
          exact ⟨_, .dollar hquote hbrace, rfl⟩
        · rintro ⟨u, hu, heq⟩
          cases hu with
          | plain _ _ hnot =>
            obtain ⟨rfl, rfl⟩ := List.cons.inj heq
            exact absurd ⟨rfl, hquote, hbrace⟩ hnot
          | dollar => exact ⟨rfl, (List.cons.inj heq).2⟩
          | escape | codePoint => exact absurd (List.cons.inj heq).1 hslash
      · next hdollar =>
        rw [takes_some_iff, Read.value_first, Read.rest_first]
        constructor
        · rintro ⟨rfl, rfl⟩
          exact ⟨_, .plain hc hslash hdollar, rfl⟩
        · rintro ⟨u, hu, heq⟩
          cases hu with
          | plain =>
            obtain ⟨rfl, rfl⟩ := List.cons.inj heq
            exact ⟨rfl, rfl⟩
          | dollar hquote hbrace =>
            obtain ⟨rfl, rfl⟩ := List.cons.inj heq
            exact absurd ⟨rfl, hquote, hbrace⟩ hdollar
          | escape | codePoint => exact absurd (List.cons.inj heq).1 hslash

/-- What stands behind the closing quote of a string does not matter for its parts. -/
theorem unitText_append_iff (hquote : IsQuote quote) : UnitText quote (t ++ quote :: rest) u v ↔ UnitText quote t u v := by
  obtain ⟨-, hopen, -, -⟩ := hquote.isCodeChar
  have hbrace : (t ++ quote :: rest).head? = some '{' ↔ t.head? = some '{' := by
    cases t with
    | nil => simp [hopen]
    | cons => rfl
  have hpoint : (∀ d u, CodePointText d u → ¬u <+: t ++ quote :: rest) ↔ ∀ d u, CodePointText d u → ¬u <+: t := by
    constructor
    · exact fun h d u hu hfront => h d u hu (hfront.trans (List.prefix_append ..))
    · intro h d u hu hfront
      rcases List.prefix_or_prefix_of_prefix hfront (List.prefix_append t (quote :: rest)) with hshort | ⟨more, rfl⟩
      · exact h d u hu hshort
      · cases more with
        | nil => exact h d _ hu (by simp)
        | cons c more =>
          obtain ⟨behind, hbehind⟩ := hfront
          rw [List.append_assoc, List.append_cancel_left_eq] at hbehind
          obtain rfl := (List.cons.inj hbehind).1
          exact hu.not_mem hquote (by simp)
  constructor
  · rintro (⟨hc, hslash, hdollar⟩ | ⟨hq, hb⟩ | hp | hp)
    · exact .plain hc hslash (by rwa [hbrace] at hdollar)
    · exact .dollar hq (hbrace.mp hb)
    · exact .escape fun hu => hpoint.mp (hp hu)
    · exact .codePoint hp
  · rintro (⟨hc, hslash, hdollar⟩ | ⟨hq, hb⟩ | hp | hp)
    · exact .plain hc hslash (by rwa [hbrace])
    · exact .dollar hq (hbrace.mpr hb)
    · exact .escape fun hu => hpoint.mpr (hp hu)
    · exact .codePoint hp

/-! ## Strings -/

/-- No part of a string begins with the quote around it. -/
theorem UnitText.head?_ne (h : UnitText quote t u v) (hquote : IsQuote quote) (w : List Char) :
    (u ++ w).head? ≠ some quote := by
  have hne : ∀ d, d ≠ quote → some d ≠ some quote := fun d hd h => hd (Option.some.inj h)
  cases h with
  | plain hc => exact hne _ hc
  | dollar => exact hne _ (hquote.of_all (P := fun c => '$' ≠ c) (by decide))
  | escape | codePoint => exact hne _ hquote.isCodeChar.2.2.2.symm

/-- A string is read up to the quote that closes it as the grammar has it. -/
theorem takes_readString?_iff {quote : Char} (hquote : IsQuote quote) {rest : List Char} (s v : List Char) :
    Takes (readString? quote s) v rest ↔ ∃ w, StringText quote w v ∧ s = w ++ quote :: rest := by
  rw [readString?.eq_def]
  cases hread : readChar? quote s with
  | some closed =>
    have hs := eq_of_readChar? hread
    simp only [takes_some_iff, Read.value_map, Read.rest_map]
    constructor
    · rintro ⟨rfl, rfl⟩
      exact ⟨[], .nil, hs⟩
    · rintro ⟨w, hw, heq⟩
      cases hw with
      | nil => exact ⟨rfl, (List.cons.inj (hs.symm.trans heq)).2⟩
      | cons hunit =>
        rw [List.append_assoc] at heq
        exact absurd (by rw [← heq, hs]; rfl) (hunit.head?_ne hquote _)
  | none =>
    have hs : s.head? ≠ some quote := by
      intro hhead
      obtain ⟨t, rfl⟩ := List.head?_eq_some_iff.mp hhead
      exact not_takes_none (hread ▸ takes_readChar?_iff.mpr rfl)
    simp only [takes_bind_iff, takes_readUnit?_iff hs]
    constructor
    · rintro ⟨x, t, below, ⟨u, hu, heq⟩, y, t', below', hbody, hvalue⟩
      obtain ⟨rfl, rfl⟩ := takes_some_iff.mp hvalue
      obtain ⟨w, hw, rfl⟩ := (takes_readString?_iff hquote t y).mp hbody
      exact ⟨u ++ w, .cons ((unitText_append_iff hquote).mp hu) hw, heq.trans (List.append_assoc ..).symm⟩
    · rintro ⟨w, hw, heq⟩
      cases hw with
      | nil => exact absurd (congrArg List.head? heq) hs
      | @cons u w x y hunit hw =>
        rw [List.append_assoc] at heq
        have hu : UnitText quote (w ++ quote :: rest) u x := (unitText_append_iff hquote).mpr hunit
        obtain ⟨below, -⟩ := (takes_readUnit?_iff hs).mpr ⟨u, hu, heq⟩
        have hbody := (takes_readString?_iff hquote (w ++ quote :: rest) y).mpr ⟨w, hw, rfl⟩
        exact ⟨x, _, below, ⟨u, hu, heq⟩, y, rest, hbody.choose, hbody, takes_some_iff.mpr ⟨rfl, rfl⟩⟩
  termination_by s.length
  decreasing_by all_goals exact below

/-- A string with backslashes where they are needed is the text of the string. -/
theorem stringText_escapeIn (hquote : IsQuote quote) (s : List Char) : StringText quote (escapeIn quote s) s := by
  induction s with
  | nil => exact .nil
  | cons c s ih =>
    have hunit : UnitText quote (escapeIn quote s)
        (if c = '\\' ∨ c = quote ∨ quote.toNat = 0x60 ∧ c = '$' then ['\\', c] else [c]) [c] := by
      split
      · next hc =>
        have hletter : escaped c = c ∧ c ≠ 'u' := by
          rcases hc with rfl | rfl | ⟨-, rfl⟩
          · decide
          · exact hquote.of_all (P := fun c => escaped c = c ∧ c ≠ 'u') (by decide)
          · decide
        have hescape : UnitText quote (escapeIn quote s) ['\\', c] [escaped c] := .escape fun hu => absurd hu hletter.2
        rwa [hletter.1] at hescape
      · next hc =>
        rw [not_or, not_or] at hc
        exact .plain hc.2.1 hc.1 fun h => hc.2.2 ⟨h.2.1, h.1⟩
    exact .cons hunit ih

end Literal

end Phrasebook
