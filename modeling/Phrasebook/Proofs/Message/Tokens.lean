import Phrasebook.Proofs.Message.Grammar

/-!
# Tokens of the message language

What the readers of single tokens take and leave, in terms of the grammar. A token is read with the white space before
it and up to the first character that separates tokens, so it is told by what follows it (`readToken_append`), and what
is read is one (`readToken_split`). `Yields` is how the statements about readers are put.
-/

namespace Phrasebook.Message

open Text Unicode

variable {α β : Type} {n m total : Nat} {s b rest : List Char} {p : Char → Bool} {c : Char}

/-! ## Success -/

/-- The reader succeeds with the value and leaves the rest. -/
def Yields (result : Except FormatError (Read α n)) (value : α) (rest : List Char) : Prop :=
  ∃ below, result = .ok ⟨value, rest, below⟩

theorem yields_ok_iff {read : Read α n} {value : α} :
    Yields (.ok read : Except FormatError (Read α n)) value rest ↔ read.value = value ∧ read.rest = rest := by
  constructor
  · rintro ⟨_, h⟩
    obtain rfl := Except.ok.inj h
    exact ⟨rfl, rfl⟩
  · rintro ⟨rfl, rfl⟩
    exact ⟨read.below, rfl⟩

theorem not_yields_error {e : FormatError} {value : α} :
    ¬Yields (.error e : Except FormatError (Read α n)) value rest := by
  rintro ⟨_, h⟩
  cases h

/-- A reader keeps its bound. -/
theorem Yields.length_lt {result : Except FormatError (Read α n)} {value : α} (h : Yields result value rest) :
    rest.length < n := by
  obtain ⟨below, -⟩ := h
  exact below

/-- A reader gives one result. -/
theorem Yields.unique {result : Except FormatError (Read α n)} {value value' : α} {rest' : List Char}
    (h : Yields result value rest) (h' : Yields result value' rest') : value = value' ∧ rest = rest' := by
  obtain ⟨_, h⟩ := h
  exact yields_ok_iff.mp (h ▸ h')

variable {first : Except FormatError (Read α n)} {next : Read α n → Except FormatError (Read β m)} {value : β}

/-- Of two readers in turn, both succeed. -/
theorem Yields.bind {x : α} {t : List Char} (hfirst : Yields first x t)
    (hnext : ∀ below, Yields (next ⟨x, t, below⟩) value rest) : Yields (first >>= next) value rest := by
  obtain ⟨below, rfl⟩ := hfirst
  exact hnext below

/-- If two readers in turn succeed, each of them does. -/
theorem Yields.of_bind (h : Yields (first >>= next) value rest) :
    ∃ x t below, Yields first x t ∧ Yields (next ⟨x, t, below⟩) value rest := by
  cases first with
  | error e => exact absurd h not_yields_error
  | ok read => exact ⟨read.value, read.rest, read.below, yields_ok_iff.mpr ⟨rfl, rfl⟩, h⟩

/-! ## Runs of characters -/

theorem stops_cons (hc : p c = false) : Stops p (c :: rest) := by
  intro d hd
  obtain rfl := Option.some.inj hd
  exact hc

theorem Stops.of_cons (h : Stops p (c :: rest)) : p c = false := h c rfl

/-- Behind the longest run of characters, the run does not go on. -/
theorem stops_dropWhile (p : Char → Bool) (s : List Char) : Stops p (s.dropWhile p) := by
  intro c hc
  have h := List.head?_dropWhile_not p s
  rw [hc] at h
  simpa using h

/-- White space does not go on a run that does not go on behind it. -/
theorem Blanks.stops_append (hb : Blanks b) (hblank : ∀ c, isBlank c = true → p c = false) (hrest : Stops p rest) :
    Stops p (b ++ rest) := by
  cases b with
  | nil => exact hrest
  | cons d b => exact stops_cons (hblank d (hb d List.mem_cons_self))

/-- White space and a character where a run does not go on. -/
theorem Blanks.stops (hb : Blanks b) (hblank : ∀ c, isBlank c = true → p c = false) (hc : p c = false) :
    Stops p (b ++ c :: rest) := hb.stops_append hblank (stops_cons hc)

/-- A run ends where it does not go on. -/
theorem takeWhile_append (hs : ∀ c ∈ s, p c = true) (hrest : Stops p rest) : (s ++ rest).takeWhile p = s := by
  rw [List.takeWhile_append_of_pos hs]
  cases rest with
  | nil => rw [List.takeWhile_nil, List.append_nil]
  | cons c rest => rw [List.takeWhile_cons_of_neg (by simp [hrest.of_cons]), List.append_nil]

theorem dropWhile_append (hs : ∀ c ∈ s, p c = true) (hrest : Stops p rest) : (s ++ rest).dropWhile p = rest := by
  rw [List.dropWhile_append_of_pos hs]
  cases rest with
  | nil => rfl
  | cons c rest => rw [List.dropWhile_cons_of_neg (by simp [hrest.of_cons])]

/-- White space is passed over up to what is none. -/
theorem skipBlank_append (hb : Blanks b) (hrest : Stops isBlank rest) : skipBlank (b ++ rest) = rest :=
  dropWhile_append hb hrest

/-- Only white space is passed over, and all of it. -/
theorem skipBlank_split (s : List Char) : ∃ b, Blanks b ∧ s = b ++ skipBlank s ∧ Stops isBlank (skipBlank s) :=
  ⟨s.takeWhile isBlank, fun _ hc => List.all_eq_true.mp List.all_takeWhile _ hc,
    List.takeWhile_append_dropWhile.symm, stops_dropWhile isBlank s⟩

/-! ## White space -/

/-- The code points of white space. -/
def blankCodes : List Nat :=
  [9, 10, 11, 12, 13, 32, 0x85, 0xa0, 0x1680, 0x2000, 0x2001, 0x2002, 0x2003, 0x2004, 0x2005, 0x2006, 0x2007, 0x2008,
    0x2009, 0x200a, 0x2028, 0x2029, 0x202f, 0x205f, 0x3000]

theorem toNat_mem_of_isBlank (h : isBlank c = true) : c.toNat ∈ blankCodes := by
  have hspace : c = ' ' → c.toNat = 32 := by
    rintro rfl
    rfl
  simp only [isBlank, Bool.or_eq_true, Bool.and_eq_true, decide_eq_true_eq, beq_iff_eq, blankRanges, Ranges.has] at h
  generalize c.toNat = k at *
  simp only [blankCodes, List.mem_cons, List.not_mem_nil, or_false]
  grind

/-- What holds of no code point of white space holds of no white space. -/
theorem eq_false_of_isBlank (hp : ∀ k ∈ blankCodes, p (Char.ofNat k) = false) (h : isBlank c = true) : p c = false := by
  have hc := hp _ (toNat_mem_of_isBlank h)
  rwa [Char.ofNat_toNat] at hc

/-- No letter and no numeral is white space. -/
theorem isAlphanumeric_of_isBlank (h : isBlank c = true) : isAlphanumeric c = false :=
  eq_false_of_isBlank (by decide +kernel) h

/-! ## Tokens -/

theorem isTokenChar_of_isBlank (h : isBlank c = true) : isTokenChar c = false := by simp [isTokenChar, h]

theorem isBlank_of_isTokenChar (h : isTokenChar c = true) : isBlank c = false := by
  cases hc : isBlank c with
  | false => rfl
  | true =>
    rw [isTokenChar_of_isBlank hc] at h
    cases h

theorem IsToken.stops {token : String} (ht : IsToken token) : Stops isBlank (token.toList ++ rest) := by
  obtain ⟨c, t, hc⟩ := List.exists_cons_of_ne_nil ht.1
  rw [hc]
  exact stops_cons (isBlank_of_isTokenChar (ht.2 c (by rw [hc]; exact List.mem_cons_self)))

/-- A token is read with the white space before it if no other character of a token follows. -/
theorem readToken_append {token : String} (hb : Blanks b) (ht : IsToken token) (hrest : Stops isTokenChar rest) :
    (readToken (b ++ (token.toList ++ rest))).value = token ∧ (readToken (b ++ (token.toList ++ rest))).rest = rest := by
  have hskip : skipBlank (b ++ (token.toList ++ rest)) = token.toList ++ rest := skipBlank_append hb ht.stops
  simp only [readToken, skippedBlank, Read.value_andThen, Read.rest_andThen, Read.value_map, Read.rest_map, Read.ofRun,
    hskip]
  rw [takeWhile_append ht.2 hrest, dropWhile_append ht.2 hrest, String.ofList_toList]
  exact ⟨rfl, rfl⟩

/-- What is read as a token stands behind white space, and no other character of a token follows. -/
theorem readToken_split (s : List Char) : ∃ b, Blanks b ∧ s = b ++ ((readToken s).value.toList ++ (readToken s).rest) ∧
    (∀ c ∈ (readToken s).value.toList, isTokenChar c = true) ∧ Stops isTokenChar (readToken s).rest := by
  obtain ⟨b, hb, hs, -⟩ := skipBlank_split s
  have hvalue : (readToken s).value = String.ofList ((skipBlank s).takeWhile isTokenChar) := rfl
  have hrest : (readToken s).rest = (skipBlank s).dropWhile isTokenChar := rfl
  refine ⟨b, hb, ?_, ?_, ?_⟩
  · rw [hvalue, hrest, String.toList_ofList, List.takeWhile_append_dropWhile]
    exact hs
  · rw [hvalue, String.toList_ofList]
    exact fun c hc => List.all_eq_true.mp List.all_takeWhile c hc
  · rw [hrest]
    exact stops_dropWhile isTokenChar (skipBlank s)

/-- A token that is not empty, as it is read. -/
theorem readToken_iff {token : String} (hne : token.toList ≠ []) :
    (readToken s).value = token ∧ (readToken s).rest = rest ↔
      IsToken token ∧ Stops isTokenChar rest ∧ ∃ b, Blanks b ∧ s = b ++ (token.toList ++ rest) := by
  constructor
  · rintro ⟨rfl, rfl⟩
    obtain ⟨b, hb, hs, htoken, hstop⟩ := readToken_split s
    exact ⟨⟨hne, htoken⟩, hstop, b, hb, hs⟩
  · rintro ⟨htoken, hstop, b, hb, rfl⟩
    exact readToken_append hb htoken hstop

/-! ## Single characters -/

/-- The character that is expected is the next one. -/
theorem yields_expect_iff {wanted : Char} {reason : String} :
    Yields (expect total wanted reason s) () rest ↔ s = wanted :: rest := by
  unfold expect
  split
  · simp [not_yields_error]
  · next d t =>
    split
    · next hd =>
      rw [yields_ok_iff, hd]
      simp
    · next hd => simp [not_yields_error, hd]

/-- A visible character is read with the white space before it. -/
theorem readVisible?_append (c : Char) (rest : List Char) (hb : Blanks b) (hc : isBlank c = false) :
    ∃ below, readVisible? (b ++ c :: rest) = some ⟨c, rest, below⟩ := by
  have hskip : skipBlank (b ++ c :: rest) = c :: rest := skipBlank_append hb (stops_cons hc)
  obtain ⟨below, hread⟩ := readAny?_cons hskip
  refine ⟨Nat.lt_of_lt_of_le below (length_skipBlank_le _), ?_⟩
  rw [readVisible?, hread]
  rfl

/-- A visible character that is read stands behind white space. -/
theorem readVisible?_split {read : Read Char s.length} (h : readVisible? s = some read) :
    ∃ b, Blanks b ∧ s = b ++ read.value :: read.rest := by
  obtain ⟨b, hb, hs, -⟩ := skipBlank_split s
  obtain ⟨inner, hinner, rfl⟩ := Option.map_eq_some_iff.mp h
  refine ⟨b, hb, ?_⟩
  rw [eq_of_readAny? hinner] at hs
  exact hs

/-- A mark is read with the white space before it. -/
theorem readMark?_append (mark : Char) (rest : List Char) (hb : Blanks b) (hmark : isBlank mark = false) :
    ∃ below, readMark? mark (b ++ mark :: rest) = some ⟨(), rest, below⟩ := by
  have hskip : skipBlank (b ++ mark :: rest) = mark :: rest := skipBlank_append hb (stops_cons hmark)
  obtain ⟨below, hread⟩ := readChar?_cons mark hskip
  refine ⟨Nat.lt_of_lt_of_le below (length_skipBlank_le _), ?_⟩
  rw [readMark?, hread]
  rfl

/-- A mark that is read stands behind white space. -/
theorem readMark?_split {mark : Char} {read : Read Unit s.length} (h : readMark? mark s = some read) :
    ∃ b, Blanks b ∧ s = b ++ mark :: read.rest := by
  obtain ⟨b, hb, hs, -⟩ := skipBlank_split s
  obtain ⟨inner, hinner, rfl⟩ := Option.map_eq_some_iff.mp h
  refine ⟨b, hb, ?_⟩
  rw [eq_of_readChar? hinner] at hs
  exact hs

/-- No mark is read in front of anything else. -/
theorem readMark?_of_ne {mark : Char} (hb : Blanks b) (hc : isBlank c = false) (hne : c ≠ mark) :
    readMark? mark (b ++ c :: rest) = none := by
  have hskip : skipBlank (b ++ c :: rest) = c :: rest := skipBlank_append hb (stops_cons hc)
  rw [readMark?, readChar?_of_ne hskip hne]
  rfl

end Phrasebook.Message
