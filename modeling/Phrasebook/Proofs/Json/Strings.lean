import Phrasebook.Json.Tree
import Phrasebook.Json.Writer

/-!
# Strings as they are written

Every character of a string is written as one unit, which a reader takes back as its code point (`takes_readUnit?`); so a
string is read back whatever follows its closing quote (`takes_readString?`). `Takes` is how the statements about readers of
JSON are put.
-/

namespace Phrasebook.Json

open Text Json.Tree

variable {α β : Type} {n m : Nat} {rest s : List Char} {c : Char}

/-! ## Success -/

/-- The reader succeeds with the value and leaves the rest. -/
def Takes (result : Option (Read α n)) (value : α) (rest : List Char) : Prop :=
  ∃ below, result = some ⟨value, rest, below⟩

theorem takes_some_iff {read : Read α n} {value : α} :
    Takes (some read) value rest ↔ read.value = value ∧ read.rest = rest := by
  constructor
  · rintro ⟨_, h⟩
    obtain rfl := Option.some.inj h
    exact ⟨rfl, rfl⟩
  · rintro ⟨rfl, rfl⟩
    exact ⟨read.below, rfl⟩

theorem not_takes_none {value : α} : ¬Takes (none : Option (Read α n)) value rest := by
  rintro ⟨_, h⟩
  cases h

theorem Takes.map {result : Option (Read α n)} {value : α} (f : α → β) (h : Takes result value rest) :
    Takes (result.map (·.map f)) (f value) rest := by
  obtain ⟨below, rfl⟩ := h
  exact takes_some_iff.mpr ⟨rfl, rfl⟩

variable {first : Option (Read α n)} {next : Read α n → Option (Read β m)} {x : α} {value : β} {t : List Char}

/-- Of two readers in turn, both succeed. -/
theorem Takes.bind (hfirst : Takes first x t) (hnext : ∀ below, Takes (next ⟨x, t, below⟩) value rest) :
    Takes (first >>= next) value rest := by
  obtain ⟨below, rfl⟩ := hfirst
  exact hnext below

/-- What two readers in turn take is what the first takes and then the second. -/
theorem takes_bind_iff : Takes (first >>= next) value rest ↔
    ∃ x t, ∃ below : t.length < n, Takes first x t ∧ Takes (next ⟨x, t, below⟩) value rest := by
  constructor
  · intro h
    cases first with
    | none => exact absurd h not_takes_none
    | some read => exact ⟨read.value, read.rest, read.below, takes_some_iff.mpr ⟨rfl, rfl⟩, h⟩
  · rintro ⟨x, t, below, ⟨_, rfl⟩, h⟩
    exact h

/-- A change of the value leaves what is taken. -/
theorem takes_map_iff (f : Read α n → Read β m) (g : α → β) (hvalue : ∀ read, (f read).value = g read.value)
    (hrest : ∀ read, (f read).rest = read.rest) :
    Takes (first.map f) value rest ↔ ∃ x, Takes first x rest ∧ g x = value := by
  cases first with
  | none => exact iff_of_false not_takes_none fun ⟨_, h, _⟩ => not_takes_none h
  | some read =>
    rw [Option.map_some, takes_some_iff, hvalue, hrest]
    simp only [takes_some_iff]
    exact ⟨fun ⟨hg, hread⟩ => ⟨read.value, ⟨rfl, hread⟩, hg⟩, fun ⟨_, ⟨hx, hread⟩, hg⟩ => ⟨hx ▸ hg, hread⟩⟩

/-! ## Characters -/

/-- The four digits of a control character name it. -/
theorem controlEscape_eq (h : c.toNat < 0x20) :
    ∃ digits : List Char, controlEscape c = '\\' :: 'u' :: digits ∧ digits.length = 4 ∧
      hexNumber? digits = some c.toNat := by
  have hlength : ∀ k < 0x20, (Number.zeros (4 - (hexDigits k).length) ++ hexDigits k).length = 4 := by decide
  have hvalue : ∀ k < 0x20, hexNumber? (Number.zeros (4 - (hexDigits k).length) ++ hexDigits k) = some k := by decide
  exact ⟨_, rfl, hlength c.toNat h, hvalue c.toNat h⟩

/-- An escape of four digits is read as their number. -/
theorem takes_readUnit?_digits {digits : List Char} {k : Nat} (hlength : digits.length = 4)
    (hvalue : hexNumber? digits = some k) : Takes (readUnit? ('\\' :: 'u' :: (digits ++ rest))) k rest := by
  match digits, hlength with
  | [a, b, d, e], _ =>
    rw [List.cons_append, List.cons_append, List.cons_append, List.cons_append, List.nil_append, readUnit?, hvalue]
    exact takes_some_iff.mpr ⟨rfl, rfl⟩

/-- A letter behind a backslash is read as what it stands for. -/
theorem takes_readUnit?_letter {letter : Char} (hletter : letter ≠ 'u') (hc : escaped? letter = some c) :
    Takes (readUnit? ('\\' :: letter :: rest)) c.toNat rest := by
  rw [readUnit?.eq_3 letter rest (by rintro _ _ _ _ _ rfl; exact absurd rfl hletter), hc]
  exact takes_some_iff.mpr ⟨rfl, rfl⟩

/-- The written form of a character is read back. -/
theorem takes_readUnit? (c : Char) (rest : List Char) : Takes (readUnit? (escapeChar c ++ rest)) c.toNat rest := by
  have hletter : ∀ letter : Char, letter ≠ 'u' → escaped? letter = some c →
      Takes (readUnit? (['\\', letter] ++ rest)) c.toNat rest :=
    fun _ hne hc => takes_readUnit?_letter hne hc
  fun_cases escapeChar c with
  | case1 h => exact hletter '"' (by decide) (by rw [h]; rfl)
  | case2 _ h => exact hletter '\\' (by decide) (by rw [h]; rfl)
  | case3 _ _ h8 => exact hletter 'b' (by decide) (by rw [← Char.ofNat_toNat c, h8]; rfl)
  | case4 _ _ _ h12 => exact hletter 'f' (by decide) (by rw [← Char.ofNat_toNat c, h12]; rfl)
  | case5 _ _ _ _ h => exact hletter 'n' (by decide) (by rw [h]; rfl)
  | case6 _ _ _ _ _ h => exact hletter 'r' (by decide) (by rw [h]; rfl)
  | case7 _ _ _ _ _ _ h => exact hletter 't' (by decide) (by rw [h]; rfl)
  | case8 _ _ _ _ _ _ _ hcontrol =>
    obtain ⟨digits, heq, hlength, hvalue⟩ := controlEscape_eq hcontrol
    rw [heq]
    exact takes_readUnit?_digits hlength hvalue
  | case9 _ hslash _ _ _ _ _ hcontrol =>
    rw [List.singleton_append, readUnit?.eq_4 c rest (fun _ _ _ _ _ h => absurd h hslash) (fun _ _ h => absurd h hslash),
      if_neg (by simp [hcontrol, hslash])]
    exact takes_some_iff.mpr ⟨rfl, rfl⟩

/-- No written form of a character begins like the end of a string. -/
theorem escapeChar_eq (c : Char) : ∃ d tail, escapeChar c = d :: tail ∧ d ≠ '"' := by
  fun_cases escapeChar c with
  | case9 hquote => exact ⟨_, _, rfl, hquote⟩
  | _ => exact ⟨_, _, rfl, by decide⟩

/-! ## Strings -/

/-- Written characters are read up to the closing quote. -/
theorem takes_readUnits? (s rest : List Char) :
    Takes (readUnits? (s.flatMap escapeChar ++ '"' :: rest)) (s.map Char.toNat) rest := by
  induction s with
  | nil =>
    obtain ⟨below, hclosed⟩ := readChar?_cons '"' (rfl : '"' :: rest = '"' :: rest)
    rw [readUnits?.eq_def, List.flatMap_nil, List.nil_append, hclosed]
    exact takes_some_iff.mpr ⟨rfl, rfl⟩
  | cons c s ih =>
    obtain ⟨d, tail, hc, hd⟩ := escapeChar_eq c
    have hopen : readChar? '"' ((c :: s).flatMap escapeChar ++ '"' :: rest) = none := by
      have htext : (c :: s).flatMap escapeChar ++ '"' :: rest = d :: (tail ++ s.flatMap escapeChar ++ '"' :: rest) := by
        rw [List.flatMap_cons, hc]
        simp
      exact readChar?_of_ne htext hd
    rw [readUnits?.eq_def, hopen]
    have hunit : Takes (readUnit? ((c :: s).flatMap escapeChar ++ '"' :: rest)) c.toNat
        (s.flatMap escapeChar ++ '"' :: rest) := by
      rw [List.flatMap_cons, List.append_assoc]
      exact takes_readUnit? c _
    refine hunit.bind fun below => ?_
    exact ih.bind fun below => takes_some_iff.mpr ⟨rfl, rfl⟩

theorem charOf?_toNat (c : Char) : charOf? c.toNat = some c := by
  unfold charOf?
  have hvalid : c.toNat.isValidChar := c.valid
  rw [dif_pos hvalid]
  exact congrArg some (Char.ext rfl)

/-- A character is no half of a surrogate pair. -/
theorem isHighSurrogate_toNat (c : Char) : isHighSurrogate c.toNat = false := by
  have hvalid : c.toNat.isValidChar := c.valid
  simp only [isHighSurrogate, Nat.isValidChar, Bool.and_eq_false_iff, decide_eq_false_iff_not] at hvalid ⊢
  omega

/-- The code points of characters name these characters. -/
theorem joinSurrogates_map_toNat (s : List Char) : joinSurrogates (s.map Char.toNat) = some s := by
  induction s with
  | nil => rfl
  | cons c s ih =>
    cases s with
    | nil =>
      rw [List.map_singleton, joinSurrogates, charOf?_toNat]
      rfl
    | cons d s =>
      rw [List.map_cons, List.map_cons, joinSurrogates, isHighSurrogate_toNat, Bool.false_and, if_neg (by decide),
        charOf?_toNat, ← List.map_cons, ih]
      rfl

/-- The written form of a string is read back after its opening quote. -/
theorem takes_readString? (s : String) (rest : List Char) :
    Takes (readString? (s.toList.flatMap escapeChar ++ '"' :: rest)) (some s) rest := by
  refine (takes_readUnits? s.toList rest).bind fun below => takes_some_iff.mpr ⟨?_, rfl⟩
  simp [joinSurrogates_map_toNat]

end Phrasebook.Json
