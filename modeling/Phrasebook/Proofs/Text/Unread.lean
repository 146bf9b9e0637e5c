import Mathlib.Data.List.Infix
import Phrasebook.Text.Read

/-!
# What is left unread

A reader takes a front of its text, so that what it leaves unread is an end of the text, and the reader's place in the text is
known by the number of characters or of bytes of that end. Readers that fail are spoken about with `Settles`: what holds of a
result, and what holds of an error.
-/

namespace Phrasebook

/-! ## Results and errors -/

section Settles

variable {ε α β : Type} {E E' : ε → Prop} {P P' : α → Prop} {Q : β → Prop} {r : Except ε α} {f : α → Except ε β}

/-- A result is as `P` says, and an error as `E` says. -/
def Settles (E : ε → Prop) (P : α → Prop) : Except ε α → Prop
  | .ok x => P x
  | .error e => E e

/-- The half of `Settles` about errors, where the reader is known to fail. -/
theorem Settles.of_error {e : ε} (h : Settles E P r) (hr : r = .error e) : E e := by
  subst hr
  exact h

/-- What settles a result settles what is weaker. -/
theorem Settles.imp (h : Settles E P r) (hE : ∀ e, E e → E' e) (hP : ∀ x, P x → P' x) : Settles E' P' r := by
  cases r with
  | ok x => exact hP x h
  | error e => exact hE e h

/-- One after the other, the second goes on from what holds of the first. -/
theorem Settles.bind (h : Settles E P r) (hf : ∀ x, P x → Settles E Q (f x)) : Settles E Q (r >>= f) := by
  cases r with
  | ok x => exact hf x h
  | error e => exact h

end Settles

/-! ## Ends of texts -/

namespace Text

variable {wanted mark c : Char} {s t : List Char}

/-- White space is skipped in front. -/
theorem skipBlank_suffix (s : List Char) : skipBlank s <:+ s := List.dropWhile_suffix _

/-- A reader of one character leaves what stands behind it. -/
theorem rest_suffix_of_readChar? {read : Read Unit s.length} (h : readChar? wanted s = some read) : read.rest <:+ s :=
  ⟨[wanted], (eq_of_readChar? h).symm⟩

/-- So does one that skips white space first. -/
theorem rest_suffix_of_readMark? {read : Read Unit s.length} (h : readMark? mark s = some read) : read.rest <:+ s := by
  obtain ⟨found, hfound, rfl⟩ := Option.map_eq_some_iff.mp h
  exact (rest_suffix_of_readChar? hfound).trans (skipBlank_suffix s)

/-- Of the first character that is no white space what stands behind it is left. -/
theorem rest_suffix_of_readVisible? {read : Read Char s.length} (h : readVisible? s = some read) : read.rest <:+ s := by
  obtain ⟨found, hfound, rfl⟩ := Option.map_eq_some_iff.mp h
  have hrest : found.rest <:+ skipBlank s := ⟨[found.value], (eq_of_readAny? hfound).symm⟩
  exact hrest.trans (skipBlank_suffix s)

/-- A reader of a fixed text leaves what stands behind that text. -/
theorem rest_suffix_of_readPrefix? {front : List Char} {read : Read Unit (s.length + 1)}
    (h : readPrefix? front s = some read) : read.rest <:+ s := by
  unfold readPrefix? at h
  split at h
  · cases h
  · next rest hrest =>
    obtain rfl := Option.some.inj h
    exact ⟨front, (afterPrefix?_eq_some_iff.mp hrest).symm⟩

/-! ## Bytes -/

/-- The bytes of a list of characters are those of its text. -/
theorem byteLength_eq_utf8ByteSize (s : List Char) : byteLength s = (String.ofList s).utf8ByteSize := by
  induction s with
  | nil => rfl
  | cons c rest ih => rw [byteLength, ih, String.ofList_cons, String.utf8ByteSize_append, String.utf8ByteSize_singleton]

/-- Bytes add up along a text, so that a place in it is known by the bytes of what is left. -/
theorem byteLength_append (s t : List Char) : byteLength (s ++ t) = byteLength s + byteLength t := by
  rw [byteLength_eq_utf8ByteSize, byteLength_eq_utf8ByteSize, byteLength_eq_utf8ByteSize, String.ofList_append,
    String.utf8ByteSize_append]

/-- Every character takes a byte at least. -/
theorem byteLength_pos_of_ne_nil (h : s ≠ []) : 0 < byteLength s := by
  obtain ⟨c, rest, rfl⟩ := List.exists_cons_of_ne_nil h
  exact Nat.add_pos_left c.utf8Size_pos _

/-- Leaving characters out leaves bytes out. -/
theorem byteLength_le_of_sublist (h : s.Sublist t) : byteLength s ≤ byteLength t := by
  induction h with
  | slnil => exact Nat.le_refl _
  | cons c _ ih => exact Nat.le_trans ih (Nat.le_add_left _ _)
  | cons_cons c _ ih => exact Nat.add_le_add_left ih _

/-- In text of one-byte characters places in bytes and in characters are the same. -/
theorem byteLength_eq_length (h : ∀ c ∈ s, c.utf8Size = 1) : byteLength s = s.length := by
  induction s with
  | nil => rfl
  | cons c rest ih =>
    obtain ⟨hc, hrest⟩ := List.forall_mem_cons.mp h
    rw [byteLength, hc, ih hrest, List.length_cons, Nat.add_comm]

/-- A hexadecimal digit is a single byte. -/
theorem utf8Size_of_hexValue? (h : (hexValue? c).isSome) : c.utf8Size = 1 := by
  rw [Char.utf8Size_eq_one_iff]
  unfold hexValue? at h
  split at h
  · next hc => exact UInt32.le_trans hc.2 (by decide)
  · split at h
    · next hc => exact UInt32.le_trans hc.2 (by decide)
    · split at h
      · next hc => exact UInt32.le_trans hc.2 (by decide)
      · cases h

end Text

end Phrasebook
