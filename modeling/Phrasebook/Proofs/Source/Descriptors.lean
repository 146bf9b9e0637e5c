import Phrasebook.Proofs.Source.Literals

/-!
# Descriptors are read as they are written

A text is read as a descriptor exactly if it is an object literal whose entries give one (`read_exact`). Up to the errors
every reader takes what the grammar has: entries with the white space around them (`takes_readEntry_iff`), the entries of an
object (`EntriesText.takes_readEntries`, `exists_entriesText`), and the whole text (`entriesOf_eq_ok_iff`).
-/

namespace Phrasebook

open Json (Takes not_takes_none takes_some_iff takes_bind_iff takes_map_iff)
open Message (Blanks Stops stops_cons skipBlank_append skipBlank_split readMark?_append readMark?_split readMark?_of_ne)
open Text Unicode

variable {total : Nat} {s t u w b : List Char}

namespace Literal

/-! ## Entries -/

/-- An entry is read with the white space around it as the grammar has it. -/
theorem takes_readEntry_iff {entry : String × Literal} : Takes (readEntry total s).toOption entry t ↔
    (Stops isBlank t ∧ endsLiteral t = true) ∧
      ∃ b w b', Blanks b ∧ EntryText entry w ∧ Blanks b' ∧ s = b ++ (w ++ (b' ++ t)) := by
  have hcolonStops : ∀ {b u}, Blanks b → Stops isNameChar (b ++ ':' :: u) := fun hb =>
    hb.stops (fun _ => isNameChar_of_isBlank) (by decide)
  rw [readEntry]
  constructor
  · intro h
    simp only [toOption_bind, toOption_expect, takes_bind_iff] at h
    obtain ⟨key, s₁, below, hkey, ⟨⟩, s₂, below', hcolon, h⟩ := h
    rw [takes_bind_join_iff rfl] at h
    obtain ⟨value, t', below'', hvalue, h⟩ := h
    obtain ⟨rfl, rfl⟩ := takes_some_iff.mp h
    obtain ⟨b₁, hb₁, hs, -⟩ := skipBlank_split s
    obtain ⟨b₂, hb₂, hs₁, -⟩ := skipBlank_split s₁
    obtain ⟨b₃, hb₃, hs₂, -⟩ := skipBlank_split s₂
    have hcolon : skipBlank s₁ = ':' :: s₂ := takes_readChar?_iff.mp hcolon
    rw [hcolon] at hs₁
    obtain ⟨w, hw, hkeyText⟩ := (takes_readKey_iff (hs₁ ▸ hcolonStops hb₂)).mp hkey
    obtain ⟨hend, v, b', hv, hb', hvalueText⟩ := takes_read?_iff.mp hvalue
    have hkeyText : skipBlank s = w ++ s₁ := hkeyText
    have hvalueText : skipBlank s₂ = v ++ (b' ++ t') := hvalueText
    refine ⟨hend, b₁, _, b', hb₁, .mk hw hb₂ hb₃ hv, hb', ?_⟩
    rw [hvalueText] at hs₂
    rw [hkeyText, hs₁, hs₂] at hs
    simpa using hs
  · rintro ⟨hend, b, _, b', hb, hentry, hb', hs⟩
    obtain @⟨key, w, v, b₂, b₃, value, hw, hb₂, hb₃, hv⟩ := hentry
    have hkeyText : skipBlank s = w ++ (b₂ ++ ':' :: (b₃ ++ (v ++ (b' ++ t)))) := by
      obtain ⟨c, u, rfl, hc, -⟩ := hw.exists_cons
      rw [hs]
      simp only [List.cons_append, List.append_assoc]
      exact skipBlank_append hb (stops_cons hc)
    have hcolonText : skipBlank (b₂ ++ ':' :: (b₃ ++ (v ++ (b' ++ t)))) = ':' :: (b₃ ++ (v ++ (b' ++ t))) :=
      skipBlank_append hb₂ (stops_cons (by decide))
    have hvalueText : skipBlank (b₃ ++ (v ++ (b' ++ t))) = v ++ (b' ++ t) := skipBlank_append hb₃ hv.stops
    rw [toOption_bind]
    refine ((takes_readKey_iff (hcolonStops hb₂)).mpr ⟨w, hw, hkeyText⟩).bind fun below => ?_
    rw [toOption_bind, toOption_expect]
    refine (takes_readChar?_iff.mpr hcolonText).bind fun below' => ?_
    have hvalue : Takes (read? total (skipBlank (b₃ ++ (v ++ (b' ++ t))))).toOption.join value t :=
      takes_read?_iff.mpr ⟨hend, v, b', hv, hb', hvalueText⟩
    obtain ⟨below'', -⟩ := id hvalue
    rw [toOption_bind]
    exact (takes_bind_join_iff rfl).mpr ⟨value, t, below'', hvalue, takes_some_iff.mpr ⟨rfl, rfl⟩⟩

/-- In front of an entry no brace closes an object. -/
theorem EntryText.readMark?_eq_none {entry : String × Literal} (h : EntryText entry w) (hb : Blanks b)
    (hs : s = b ++ (w ++ u)) : readMark? '}' s = none := by
  subst hs
  obtain ⟨hkey, -, -, -⟩ := h
  obtain ⟨c, v, rfl, hc, hne⟩ := hkey.exists_cons
  simp only [List.cons_append]
  exact readMark?_of_ne hb hc hne

/-- The text of entries is read up to the brace behind it. -/
theorem EntriesText.takes_readEntries {entries : List (String × Literal)} (h : EntriesText entries w) :
    Takes (readEntries total (w ++ '}' :: t)).toOption entries t := by
  induction h with
  | none hb =>
    obtain ⟨below, hread⟩ := readMark?_append '}' t hb (by decide)
    rw [readEntries.eq_def, hread]
    exact takes_some_iff.mpr ⟨rfl, rfl⟩
  | @last b w b' entry hb hentry hb' =>
    have hs : b ++ (w ++ b') ++ '}' :: t = b ++ (w ++ (b' ++ '}' :: t)) := by simp
    have hstop : Stops isBlank ('}' :: t) := stops_cons (by decide)
    have hread : Takes (readEntry total (b ++ (w ++ b') ++ '}' :: t)).toOption entry ('}' :: t) :=
      takes_readEntry_iff.mpr ⟨⟨hstop, rfl⟩, b, w, b', hb, hentry, hb', hs⟩
    rw [readEntries.eq_def, hentry.readMark?_eq_none hb hs]
    simp only [toOption_bind]
    refine hread.bind fun below => ?_
    simp only [readChar?_of_ne (rfl : '}' :: t = '}' :: t) (by decide : '}' ≠ ',')]
    rw [toOption_bind, toOption_expect]
    exact (takes_readChar?_iff.mpr rfl).bind fun below' => takes_some_iff.mpr ⟨rfl, rfl⟩
  | @more b w b' rest entry entries hb hentry hb' _ ih =>
    have hs : b ++ (w ++ (b' ++ ',' :: rest)) ++ '}' :: t = b ++ (w ++ (b' ++ ',' :: (rest ++ '}' :: t))) := by simp
    have hstop : Stops isBlank (',' :: (rest ++ '}' :: t)) := stops_cons (by decide)
    have hread : Takes (readEntry total (b ++ (w ++ (b' ++ ',' :: rest)) ++ '}' :: t)).toOption entry
        (',' :: (rest ++ '}' :: t)) := takes_readEntry_iff.mpr ⟨⟨hstop, rfl⟩, b, w, b', hb, hentry, hb', hs⟩
    obtain ⟨below', hcomma⟩ := readChar?_cons ',' (rfl : ',' :: (rest ++ '}' :: t) = ',' :: (rest ++ '}' :: t))
    rw [readEntries.eq_def, hentry.readMark?_eq_none hb hs]
    simp only [toOption_bind]
    refine hread.bind fun below => ?_
    simp only [hcomma]
    rw [toOption_bind]
    exact ih.bind fun below'' => takes_some_iff.mpr ⟨rfl, rfl⟩

/-- What is read as entries is the text of entries, with a brace behind it. -/
theorem exists_entriesText {total : Nat} {s t : List Char} {entries : List (String × Literal)}
    (h : Takes (readEntries total s).toOption entries t) : ∃ w, EntriesText entries w ∧ s = w ++ '}' :: t := by
  rw [readEntries.eq_def] at h
  cases hclosed : readMark? '}' s with
  | some closed =>
    rw [hclosed] at h
    obtain ⟨rfl, rfl⟩ := takes_some_iff.mp h
    obtain ⟨b, hb, hs⟩ := readMark?_split hclosed
    exact ⟨b, .none hb, hs⟩
  | none =>
    rw [hclosed] at h
    simp only [toOption_bind, takes_bind_iff] at h
    obtain ⟨entry, s₁, below, hentry, h⟩ := h
    obtain ⟨-, b, w, b', hb, hw, hb', hs⟩ := takes_readEntry_iff.mp hentry
    cases hcomma : readChar? ',' s₁ with
    | some comma =>
      simp only [hcomma] at h
      rw [toOption_bind, takes_bind_iff] at h
      obtain ⟨others, t', below', hothers, h⟩ := h
      obtain ⟨rfl, rfl⟩ := takes_some_iff.mp h
      obtain ⟨w', hw', hrest⟩ := exists_entriesText hothers
      refine ⟨_, .more hb hw hb' hw', ?_⟩
      rw [eq_of_readChar? hcomma, hrest] at hs
      simpa using hs
    | none =>
      simp only [hcomma] at h
      rw [toOption_bind, toOption_expect, takes_bind_iff] at h
      obtain ⟨⟨⟩, t', below', hbrace, h⟩ := h
      obtain ⟨rfl, rfl⟩ := takes_some_iff.mp h
      refine ⟨_, .last hb hw hb', ?_⟩
      rw [takes_readChar?_iff.mp hbrace] at hs
      simpa using hs
  termination_by s.length
  decreasing_by exact Nat.lt_trans comma.below below

/-- The entries of a text are those of the object literal that it is. -/
theorem entriesOf_eq_ok_iff {text : String} {entries : List (String × Literal)} :
    entriesOf text = .ok entries ↔ ObjectText entries text.toList := by
  rw [← toOption_eq_some_iff, entriesOf, toOption_bind, toOption_expect]
  generalize text.toList = s
  constructor
  · intro h
    obtain ⟨brace, hbrace, h⟩ := Option.bind_eq_some_iff.mp h
    rw [toOption_bind] at h
    obtain ⟨read, hread, h⟩ := Option.bind_eq_some_iff.mp h
    split at h
    · next hend =>
      obtain rfl := Option.some.inj h
      obtain ⟨b, hb, hs, -⟩ := skipBlank_split s
      obtain ⟨b', hb', hrest, -⟩ := skipBlank_split read.rest
      rw [List.isEmpty_iff.mp hend, List.append_nil] at hrest
      obtain ⟨w, hw, hinside⟩ := exists_entriesText ⟨read.below, hread⟩
      have htext : s = b ++ '{' :: (w ++ '}' :: b') := by
        rw [hs, eq_of_readChar? hbrace, hinside, ← hrest]
      have hobject : ∀ entries, EntriesText entries w → ObjectText entries s := fun entries hentries =>
        htext ▸ .mk hb hentries hb'
      exact hobject _ hw
    · cases h
  · rintro @⟨b, w, b', hb, hw, hb'⟩
    have hskip : skipBlank (b ++ '{' :: (w ++ '}' :: b')) = '{' :: (w ++ '}' :: b') :=
      skipBlank_append hb (stops_cons (by decide))
    have hend : skipBlank b' = [] := by
      have h : skipBlank (b' ++ []) = [] := skipBlank_append hb' nofun
      rwa [List.append_nil] at h
    obtain ⟨below, hbrace⟩ := readChar?_cons '{' hskip
    obtain ⟨below', hentries⟩ : Takes (readEntries (byteLength (b ++ '{' :: (w ++ '}' :: b'))) (w ++ '}' :: b')).toOption
      entries b' := hw.takes_readEntries
    refine Option.bind_eq_some_iff.mpr ⟨_, hbrace, ?_⟩
    rw [toOption_bind]
    refine Option.bind_eq_some_iff.mpr ⟨_, hentries, ?_⟩
    rw [if_pos (by rw [hend]; rfl)]
    rfl

end Literal

/-! ## Descriptors -/

namespace Descriptor

open Literal

variable {entries : List (String × Literal)} {value : Option Literal}

theorem lastValue?_of_isLast {key : String} (h : IsLast key entries value) : lastValue? key entries = value := by
  cases h with
  | none h =>
    have hfind : entries.reverse.find? (·.1 == key) = none :=
      List.find?_eq_none.mpr fun entry hentry => by simpa using h entry (List.mem_reverse.mp hentry)
    rw [lastValue?, hfind]
    rfl
  | @some front behind value hentries h =>
    have hbehind : behind.reverse.find? (·.1 == key) = none :=
      List.find?_eq_none.mpr fun entry hentry => by simpa using h entry (List.mem_reverse.mp hentry)
    simp [lastValue?, hentries, hbehind]

/-- The last value of a key is the one that no other entry with the key follows. -/
theorem isLast_lastValue? (key : String) (entries : List (String × Literal)) :
    IsLast key entries (lastValue? key entries) := by
  unfold lastValue?
  cases hfind : entries.reverse.find? (·.1 == key) with
  | none => exact .none fun entry hentry => by simpa using List.find?_eq_none.mp hfind entry (List.mem_reverse.mpr hentry)
  | some entry =>
    obtain ⟨hkey, behind, front, hentries, hbehind⟩ := List.find?_eq_some_iff_append.mp hfind
    obtain ⟨k, literal⟩ := entry
    obtain rfl : k = key := by simpa using hkey
    refine @IsLast.some k entries front.reverse behind.reverse literal ?_ fun entry hentry => ?_
    · rw [← List.reverse_reverse entries, hentries]
      simp
    · simpa using hbehind entry (List.mem_reverse.mp hentry)

theorem idOf_eq_ok_iff {id : String} : idOf value = .ok id ↔
    value = some (.string id.toList) ∧ id ≠ "" ∧ ∀ c ∈ id.toList, c.isAlpha ∨ c = '_' ∨ c = '.' ∨ c = '-' := by
  have hchars : ∀ s : List Char, s.all isIdChar = true ↔ ∀ c ∈ s, c.isAlpha ∨ c = '_' ∨ c = '.' ∨ c = '-' := by
    simp [isIdChar, List.all_eq_true, or_assoc]
  constructor
  · intro h
    unfold idOf at h
    split at h
    · next s =>
      split at h
      · next hid =>
        obtain rfl := Except.ok.inj h
        rw [Bool.and_eq_true, hchars] at hid
        rw [String.toList_ofList]
        exact ⟨rfl, fun hempty => by simp_all, hid.2⟩
      · cases h
    all_goals cases h
  · rintro ⟨rfl, hne, hid⟩
    rw [← hchars] at hid
    have hne' : id.toList.isEmpty = false := by simpa using hne
    rw [idOf, hne', hid, String.ofList_toList]
    rfl

theorem defaultMessageOf_eq_ok_iff {message : Option String} :
    defaultMessageOf value = .ok message ↔ MessageOf value message := by
  have htext : ∀ s : List Char, Template.normalize (String.ofList s) = String.ofList (Template.normalizeChars s) := by
    intro s
    rw [Template.normalize, String.toList_ofList]
  constructor
  · intro h
    unfold defaultMessageOf at h
    split at h
    · exact Except.ok.inj h ▸ .absent
    · exact Except.ok.inj h ▸ .null
    · next s =>
      obtain rfl := Except.ok.inj h
      split
      · next hempty => exact List.isEmpty_iff.mp hempty ▸ .empty
      · next hne => exact htext s ▸ .text (by simpa using hne)
    · cases h
  · rintro (_ | _ | _ | @⟨s, hs⟩)
    · rfl
    · rfl
    · rfl
    · have hne : s.isEmpty = false := by simpa using hs
      rw [defaultMessageOf, hne, htext]
      rfl

/-- The descriptor that entries give is read from a text with these entries. -/
theorem read_eq_ok_iff {text : String} {d : Descriptor} : read text = .ok d ↔
    ∃ entries, ObjectText entries text.toList ∧ Describes entries d := by
  constructor
  · intro h
    unfold read at h
    cases hentries : entriesOf text with
    | error e => rw [hentries] at h; cases h
    | ok entries =>
      cases hid : idOf (lastValue? "id" entries) with
      | error e => simp [hentries, hid, bind, Except.bind] at h
      | ok id =>
        cases hmessage : defaultMessageOf (lastValue? "defaultMessage" entries) with
        | error e => simp [hentries, hid, hmessage, bind, Except.bind] at h
        | ok message =>
          obtain rfl : (⟨id, message⟩ : Descriptor) = d := by
            simpa [hentries, hid, hmessage, bind, Except.bind, pure, Except.pure] using h
          obtain ⟨hvalue, hne, hchars⟩ := idOf_eq_ok_iff.mp hid
          exact ⟨entries, entriesOf_eq_ok_iff.mp hentries, hvalue ▸ isLast_lastValue? "id" entries, hne, hchars, _,
            isLast_lastValue? "defaultMessage" entries, defaultMessageOf_eq_ok_iff.mp hmessage⟩
  · rintro ⟨entries, hentries, hid, hne, hchars, value, hvalue, hmessage⟩
    have hread : idOf (lastValue? "id" entries) = .ok d.id ∧
        defaultMessageOf (lastValue? "defaultMessage" entries) = .ok d.defaultMessage := by
      rw [lastValue?_of_isLast hid, lastValue?_of_isLast hvalue]
      exact ⟨idOf_eq_ok_iff.mpr ⟨rfl, hne, hchars⟩, defaultMessageOf_eq_ok_iff.mpr hmessage⟩
    simp [read, entriesOf_eq_ok_iff.mpr hentries, hread.1, hread.2, bind, Except.bind, pure, Except.pure]

/-- A text is read as a descriptor exactly if it is an object literal whose entries give the descriptor; and a string in which
backslashes stand where they are needed is read back from between its quotes, whatever follows. -/
theorem read_exact :
    (∀ (text : String) (d : Descriptor), read text = .ok d ↔
      ∃ entries, ObjectText entries text.toList ∧ Describes entries d) ∧
    ∀ quote, IsQuote quote → ∀ (s rest : List Char) (start : Nat),
      ∃ below, readString start quote (escapeIn quote s ++ quote :: rest) = .ok ⟨s, rest, below⟩ := by
  refine ⟨fun _ _ => read_eq_ok_iff, fun quote hquote s rest start => ?_⟩
  obtain ⟨below, hread⟩ := (takes_readString?_iff hquote (escapeIn quote s ++ quote :: rest) s).mpr
    ⟨_, stringText_escapeIn hquote s, rfl⟩
  exact ⟨below, by rw [readString, hread]⟩

/-- A descriptor with an apostrophe in its default message and a comma behind its last entry. -/
theorem read_exact_due :
    read "\x7b id: 'bill', defaultMessage:'it\\'s due',\x7d" = .ok ⟨"bill", some "it's due"⟩ ∧
    IsQuote '"' ∧ ∃ below, readString 0 '"' ("a\\\"b\".".toList) = .ok ⟨"a\"b".toList, ['.'], below⟩ := by
  refine ⟨(read_exact.1 _ _).mpr ⟨[("id", .string "bill".toList), ("defaultMessage", .string "it's due".toList)], ?_, ?_⟩,
    by decide, read_exact.2 '"' (by decide) "a\"b".toList ['.'] 0⟩
  · have hliteral : ∀ s : List Char, LiteralText (.string s) ('\'' :: (escapeIn '\'' s ++ ['\''])) := fun s =>
      .string (by decide) (stringText_escapeIn (by decide) s)
    have hname : ∀ (c : Char) (s : List Char), startsName c = true → s.all isNameChar = true → KeyText (c :: s) (c :: s) :=
      fun c s hc hs => .name hc (List.all_eq_true.mp hs)
    have hnone : Blanks [] := nofun
    have hspace : Blanks [' '] := by decide
    have hid : EntryText ("id", .string "bill".toList) "id: 'bill'".toList :=
      .mk (hname 'i' ['d'] (by decide) (by decide +kernel)) hnone hspace (hliteral _)
    have hmessage : EntryText ("defaultMessage", .string "it's due".toList) "defaultMessage:'it\\'s due'".toList :=
      .mk (hname 'd' "efaultMessage".toList (by decide) (by decide +kernel)) hnone hnone (hliteral _)
    exact .mk hnone (.more hspace hid hnone (.more hspace hmessage hnone (.none hnone))) hnone
  · have hnormal : some "it's due" = some (Template.normalize (String.ofList "it's due".toList)) := by decide +kernel
    exact ⟨@IsLast.some _ _ [] _ _ rfl (by simp), by decide, by simp, _, @IsLast.some _ _ [_] [] _ rfl nofun,
      hnormal ▸ .text (by decide)⟩

end Descriptor

end Phrasebook
