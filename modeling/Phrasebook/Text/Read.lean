import Phrasebook.Text.Basic

/-!
# What a reader returns

A reader of this library returns what it has read and the unread rest of its text, with a bound on the length of the
rest: below `s.length` if something of the text `s` has been taken, below `s.length + 1` if perhaps nothing has. The
bound is why a reader that calls itself on the rest ends.
-/

namespace Phrasebook

/-- Something read, and the unread characters, of which there are fewer than `limit`. -/
structure Read (α : Type) (limit : Nat) where
  value : α
  rest : List Char
  below : rest.length < limit

namespace Read

variable {α β : Type} {n m : Nat}

/-- A value for which nothing of the text is taken. -/
def nothing (value : α) (s : List Char) : Read α (s.length + 1) := ⟨value, s, Nat.lt_succ_self _⟩

/-- A value for which the first character of the text is taken. -/
def first (value : α) (c : Char) (rest : List Char) : Read α (c :: rest).length := ⟨value, rest, Nat.lt_succ_self _⟩

/-- The run of characters at the start of a text that satisfy `p`. -/
def ofRun (p : Char → Bool) (s : List Char) : Read (List Char) (s.length + 1) :=
  ⟨s.takeWhile p, s.dropWhile p, Nat.lt_succ_of_le (Text.length_dropWhile_le p s)⟩

/-- Another value for the same characters. -/
def map (f : α → β) (read : Read α n) : Read β n := ⟨f read.value, read.rest, read.below⟩

/-- What was read from a text is read as well from a longer text that ends with it. -/
def widen (read : Read α n) (h : n ≤ m) : Read α m := ⟨read.value, read.rest, Nat.lt_of_lt_of_le read.below h⟩

/-- What was read from a text is read as well from the text with one more character in front. -/
def afterOne (read : Read α n) : Read α (n + 1) := read.widen (Nat.le_succ n)

/-- The second of two things read one after the other, if the first took something. -/
def andThen (first : Read α n) (second : Read β (first.rest.length + 1)) : Read β n := second.widen first.below

/-- The second of two things read one after the other, if the second took something. -/
def perhapsThen (first : Read α (n + 1)) (second : Read β first.rest.length) : Read β n :=
  second.widen (Nat.le_of_lt_succ first.below)

@[simp] theorem value_first (x : α) (c : Char) (rest : List Char) : (first x c rest).value = x := rfl

@[simp] theorem rest_first (x : α) (c : Char) (rest : List Char) : (first x c rest).rest = rest := rfl

@[simp] theorem value_map (f : α → β) (read : Read α n) : (read.map f).value = f read.value := rfl

@[simp] theorem rest_map (f : α → β) (read : Read α n) : (read.map f).rest = read.rest := rfl

@[simp] theorem value_widen (read : Read α n) (h : n ≤ m) : (read.widen h).value = read.value := rfl

@[simp] theorem rest_widen (read : Read α n) (h : n ≤ m) : (read.widen h).rest = read.rest := rfl

@[simp] theorem value_afterOne (read : Read α n) : read.afterOne.value = read.value := rfl

@[simp] theorem rest_afterOne (read : Read α n) : read.afterOne.rest = read.rest := rfl

@[simp] theorem value_andThen (read : Read α n) (second : Read β (read.rest.length + 1)) :
    (read.andThen second).value = second.value := rfl

@[simp] theorem rest_andThen (read : Read α n) (second : Read β (read.rest.length + 1)) :
    (read.andThen second).rest = second.rest := rfl

@[simp] theorem value_perhapsThen (read : Read α (n + 1)) (second : Read β read.rest.length) :
    (read.perhapsThen second).value = second.value := rfl

@[simp] theorem rest_perhapsThen (read : Read α (n + 1)) (second : Read β read.rest.length) :
    (read.perhapsThen second).rest = second.rest := rfl

end Read

namespace Text

open Unicode

/-- Reads one given character. -/
def readChar? (wanted : Char) (s : List Char) : Option (Read Unit s.length) :=
  match s with
  | [] => none
  | c :: rest => if c = wanted then some (Read.first () c rest) else none

theorem eq_of_readChar? {wanted : Char} {s : List Char} {read : Read Unit s.length}
    (h : readChar? wanted s = some read) : s = wanted :: read.rest := by
  unfold readChar? at h
  split at h
  · cases h
  · split at h
    · next hc =>
      obtain rfl := Option.some.inj h
      rw [hc]
      rfl
    · cases h

theorem readChar?_cons (wanted : Char) {s rest : List Char} (h : s = wanted :: rest) :
    ∃ below, readChar? wanted s = some ⟨(), rest, below⟩ := by
  subst h
  exact ⟨Nat.lt_succ_self _, by rw [readChar?, if_pos rfl]; rfl⟩

theorem readChar?_of_ne {wanted c : Char} {s rest : List Char} (h : s = c :: rest) (hc : c ≠ wanted) :
    readChar? wanted s = none := by
  subst h
  rw [readChar?, if_neg hc]

/-- Reads one given character if it is there; is it? -/
def readOptional (wanted : Char) (s : List Char) : Read Bool (s.length + 1) :=
  match readChar? wanted s with
  | some found => (found.map fun _ => true).afterOne
  | none => Read.nothing false s

/-- Reads a character. -/
def readAny? (s : List Char) : Option (Read Char s.length) :=
  match s with
  | [] => none
  | c :: rest => some (Read.first c c rest)

theorem eq_of_readAny? {s : List Char} {read : Read Char s.length} (h : readAny? s = some read) :
    s = read.value :: read.rest := by
  cases s with
  | nil => cases h
  | cons c rest =>
    obtain rfl := Option.some.inj h
    rfl

theorem readAny?_cons {c : Char} {s rest : List Char} (h : s = c :: rest) :
    ∃ below, readAny? s = some ⟨c, rest, below⟩ := by
  subst h
  exact ⟨Nat.lt_succ_self _, rfl⟩

/-- Reads one given text. -/
def readPrefix? (wanted s : List Char) : Option (Read Unit (s.length + 1)) :=
  match h : afterPrefix? wanted s with
  | none => none
  | some rest => some ⟨(), rest, Nat.lt_succ_of_le (length_afterPrefix_le h)⟩

/-- A value for which white space is taken. -/
def skippedBlank {α : Type} (value : α) (s : List Char) : Read α (s.length + 1) :=
  ⟨value, skipBlank s, Nat.lt_succ_of_le (length_skipBlank_le s)⟩

/-- Reads a character and the white space before it. -/
def readVisible? (s : List Char) : Option (Read Char s.length) :=
  (readAny? (skipBlank s)).map (·.widen (length_skipBlank_le s))

/-- Reads one given character and the white space before it. -/
def readMark? (mark : Char) (s : List Char) : Option (Read Unit s.length) :=
  (readChar? mark (skipBlank s)).map (·.widen (length_skipBlank_le s))

/-- Reads the characters before the first occurrence of one given character, and that one. -/
def readThrough? (closing : Char) (s : List Char) : Option (Read (List Char) s.length) :=
  match s with
  | [] => none
  | c :: rest =>
    if c = closing then some (Read.first [] c rest)
    else (readThrough? closing rest).map fun before => (before.map (c :: ·)).afterOne

end Text

end Phrasebook
