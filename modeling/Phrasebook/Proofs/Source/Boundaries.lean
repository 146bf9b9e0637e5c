import Phrasebook.Proofs.Source.Descriptors
import Phrasebook.Proofs.Text.Unread

/-!
# Places in descriptors

A place is a number of bytes behind which the rest of the text is unread (`IsAt`), so that it lies between two characters.
Every reader goes on from its place to another one, also the reader of code points, which jumps over bytes (`CodePointJump`),
and the place of an error is one from there on (`ReadersGoOn`). So no error about the text of a descriptor points inside a
character or behind the text (`Descriptor.read_boundaries`).
-/

namespace Phrasebook

/-- The place of an error, if it has one. -/
def DescriptorError.place? : DescriptorError → Option Nat
  | .expected _ offset => some offset
  | .unterminatedString offset => some offset
  | _ => none

namespace Literal

open Text Unicode

variable {α β : Type} {n m total k : Nat} {text : String} {quote c : Char} {s t rest : List Char} {e : DescriptorError}

/-! ## Faults -/

/-- If the error has a place in a text of `total` bytes, it is one in what is unread. -/
def IsFaultIn (total : Nat) (s : List Char) (e : DescriptorError) : Prop :=
  ∀ offset, e.place? = some offset → ∃ t, t <:+ s ∧ offset = offsetOf total t

/-- A fault in an end of a text is one in the text. -/
theorem IsFaultIn.mono (h : IsFaultIn total s e) (hs : s <:+ t) : IsFaultIn total t e := by
  intro offset hoffset
  obtain ⟨u, hu, rfl⟩ := h offset hoffset
  exact ⟨u, hu.trans hs, rfl⟩

/-- A reader of the text leaves an end of it, or tells a fault in it. -/
def Proceeds (total : Nat) (s : List Char) (r : Except DescriptorError (Read α n)) : Prop :=
  Settles (IsFaultIn total s) (fun read => read.rest <:+ s) r

/-- A reader of the text that may find nothing leaves an end of it if it finds something, or tells a fault in it. -/
def MayProceed (total : Nat) (s : List Char) (r : Except DescriptorError (Option (Read α n))) : Prop :=
  Settles (IsFaultIn total s) (fun found => ∀ read ∈ found, read.rest <:+ s) r

/-- What a reader does in an end of a text it does in the text. -/
theorem Proceeds.mono {r : Except DescriptorError (Read α n)} (h : Proceeds total s r) (hs : s <:+ t) :
    Proceeds total t r := Settles.imp h (fun _ he => he.mono hs) fun _ hrest => hrest.trans hs

/-- The same for a reader that may find nothing. -/
theorem MayProceed.mono {r : Except DescriptorError (Option (Read α n))} (h : MayProceed total s r) (hs : s <:+ t) :
    MayProceed total t r := Settles.imp h (fun _ he => he.mono hs) fun _ hfound read hread => (hfound read hread).trans hs

/-- One reader after the other. -/
theorem Proceeds.bind {Q : β → Prop} {r : Except DescriptorError (Read α n)} {f : Read α n → Except DescriptorError β}
    (h : Proceeds total s r) (hf : ∀ read, read.rest <:+ s → Settles (IsFaultIn total s) Q (f read)) :
    Settles (IsFaultIn total s) Q (r >>= f) := Settles.bind h hf

/-- That something is missing is told at a place between two characters. -/
theorem isFaultIn_expected (what : String) (ht : t <:+ s) : IsFaultIn total s (.expected what (offsetOf total t)) := by
  intro offset hoffset
  exact ⟨t, ht, (Option.some.inj hoffset).symm⟩

/-! ## Strings -/

/-- An escape is read from the front, however many digits it has. -/
theorem rest_suffix_of_readEscape? {read : Read Char s.length} (h : readEscape? s = some read) : read.rest <:+ s := by
  rcases takes_readEscape?_iff.mp ⟨read.below, h⟩ with ⟨c, hs, -⟩ | ⟨u, -, hs⟩
  · exact ⟨[c], hs.symm⟩
  · exact ⟨'u' :: u, hs.symm⟩

/-- A unit of a string, which may be an escape or stand for itself, is read from the front. -/
theorem rest_suffix_of_readUnit? {read : Read (List Char) s.length} (h : readUnit? quote s = some read) :
    read.rest <:+ s := by
  unfold readUnit? at h
  split at h
  · cases h
  · split at h
    · obtain ⟨escape, hescape, rfl⟩ := Option.map_eq_some_iff.mp h
      exact (rest_suffix_of_readEscape? hescape).trans (List.suffix_cons ..)
    · split at h
      · obtain rfl := Option.some.inj h
        exact List.suffix_cons ..
      · obtain rfl := Option.some.inj h
        exact List.suffix_cons ..

/-- Unit after unit, by induction on the length of the text. -/
theorem rest_suffix_of_readString? {s : List Char} {read : Read (List Char) s.length} (h : readString? quote s = some read) :
    read.rest <:+ s := by
  rw [readString?.eq_def] at h
  split at h
  · next closed hclosed =>
    obtain rfl := Option.some.inj h
    exact rest_suffix_of_readChar? hclosed
  · obtain ⟨unit, hunit, h⟩ := Option.bind_eq_some_iff.mp h
    obtain ⟨body, hbody, h⟩ := Option.bind_eq_some_iff.mp h
    obtain rfl := Option.some.inj h
    have hrest : body.rest <:+ unit.rest := rest_suffix_of_readString? hbody
    exact hrest.trans (rest_suffix_of_readUnit? hunit)
  termination_by s.length
  decreasing_by exact unit.below

/-- A string that does not end is at fault where its quote stands. -/
theorem proceeds_readString (total : Nat) (c quote : Char) (s : List Char) :
    Proceeds total (c :: s) (readString (offsetOf total (c :: s)) quote s) := by
  unfold readString
  split
  · next body hbody => exact (rest_suffix_of_readString? hbody).trans (List.suffix_cons ..)
  · intro offset hoffset
    exact ⟨c :: s, List.suffix_rfl, (Option.some.inj hoffset).symm⟩

/-! ## Entries -/

/-- A mark that is missing is the fault of the place where it would be. -/
theorem proceeds_expect (total : Nat) (wanted : Char) (what : String) (s : List Char) :
    Proceeds total s (expect total wanted what s) := by
  unfold expect
  split
  · exact isFaultIn_expected what List.suffix_rfl
  · split
    · exact List.suffix_cons ..
    · exact isFaultIn_expected what List.suffix_rfl

/-- A key is a name or a string. -/
theorem proceeds_readKey (total : Nat) (s : List Char) : Proceeds total s (readKey total s) := by
  unfold readKey
  split
  · exact isFaultIn_expected _ List.suffix_rfl
  · next c rest =>
    split
    · exact (proceeds_readString total c c rest).bind fun key hkey => hkey
    · split
      · exact (List.dropWhile_suffix _).trans (List.suffix_cons ..)
      · exact isFaultIn_expected _ List.suffix_rfl

/-- A literal is a string, a number or a word; where none begins, that is no error yet. -/
theorem mayProceed_readSimple? (total : Nat) (s : List Char) : MayProceed total s (readSimple? total s) := by
  unfold readSimple?
  split
  · exact fun _ h => by cases h
  · next c rest =>
    have hrun : ∀ p : Char → Bool, (Read.ofRun p rest).rest <:+ c :: rest := fun p =>
      (List.dropWhile_suffix p).trans (List.suffix_cons ..)
    split
    · refine (proceeds_readString total c c rest).bind fun body hbody read hread => ?_
      obtain rfl := Option.mem_some_iff.mp hread
      exact hbody
    · split
      · intro read hread
        obtain ⟨x, -, rfl⟩ := Option.map_eq_some_iff.mp hread
        exact hrun isNumberChar
      · split
        · intro read hread
          obtain ⟨literal, -, rfl⟩ := Option.map_eq_some_iff.mp hread
          exact hrun isNameChar
        · exact fun _ h => by cases h

/-- A literal counts as one only if its entry ends behind it. -/
theorem mayProceed_read? (total : Nat) (s : List Char) : MayProceed total s (read? total s) := by
  refine Settles.bind (mayProceed_readSimple? total s) fun found hfound => ?_
  split
  · exact fun _ h => by cases h
  · next literal =>
    split
    · intro read hread
      obtain rfl := Option.mem_some_iff.mp hread
      exact (skipBlank_suffix _).trans (hfound literal rfl)
    · exact fun _ h => by cases h

/-- A key, a colon and a literal. What is no literal is told by the key, without a place. -/
theorem proceeds_readEntry (total : Nat) (s : List Char) : Proceeds total s (readEntry total s) := by
  refine ((proceeds_readKey total (skipBlank s)).mono (skipBlank_suffix s)).bind fun key hkey => ?_
  have hcolon := (proceeds_expect total ':' "':'" (skipBlank key.rest)).mono ((skipBlank_suffix _).trans hkey)
  refine hcolon.bind fun colon hcolon => ?_
  have hvalue := (mayProceed_read? total (skipBlank colon.rest)).mono ((skipBlank_suffix _).trans hcolon)
  refine Settles.bind hvalue fun found hfound => ?_
  split
  · exact fun _ h => by cases h
  · next literal => exact hfound literal rfl

/-- Entry after entry, by induction on the length of the text. -/
theorem proceeds_readEntries (total : Nat) (s : List Char) : Proceeds total s (readEntries total s) := by
  rw [readEntries.eq_def]
  split
  · next closed hclosed => exact rest_suffix_of_readMark? hclosed
  · refine (proceeds_readEntry total s).bind fun entry hentry => ?_
    split
    · next comma hcomma =>
      have hrest : comma.rest <:+ s := (rest_suffix_of_readChar? hcomma).trans hentry
      exact ((proceeds_readEntries total comma.rest).mono hrest).bind fun entries hentries => hentries
    · exact ((proceeds_expect total '}' _ entry.rest).mono hentry).bind fun closed hclosed => hclosed
  termination_by s.length
  decreasing_by
    rename_i comma _ _
    exact Nat.lt_trans comma.below entry.below

/-- Whatever is at fault in the text of an object literal, its place is one in the text. -/
theorem settles_entriesOf (text : String) :
    Settles (IsFaultIn (byteLength text.toList) text.toList) (fun _ => True) (entriesOf text) := by
  refine ((proceeds_expect _ '{' _ _).mono (skipBlank_suffix _)).bind fun brace hbrace => ?_
  refine ((proceeds_readEntries _ _).mono hbrace).bind fun entries hentries => ?_
  split
  · trivial
  · exact isFaultIn_expected _ ((skipBlank_suffix _).trans hentries)

/-! ## Places -/

/-- At the place, a number of bytes, `unread` is the rest of the text: so many bytes are a front of it in UTF-8. -/
def IsAt (text : String) (k : Nat) (unread : List Char) : Prop :=
  ∃ front : String, text = front ++ String.ofList unread ∧ front.utf8ByteSize = k

/-- The reader has gone to a place that is not before `least`. -/
def GoesTo (text : String) (least : Nat) (read : Read α n) : Prop := ∃ k, least ≤ k ∧ IsAt text k read.rest

/-- If the error has a place, it is one of the text, and not before the given one. -/
def IsToldFrom (text : String) (k : Nat) (e : DescriptorError) : Prop :=
  ∀ offset, e.place? = some offset → k ≤ offset ∧ ∃ unread, IsAt text offset unread

/-- In front of the first byte the whole text is unread. -/
theorem isAt_start (text : String) : IsAt text 0 text.toList := ⟨"", by simp, rfl⟩

/-- The places are those of the library. -/
theorem isAt_iff_isValid : (∃ unread, IsAt text k unread) ↔ String.Pos.Raw.IsValid text ⟨k⟩ := by
  rw [String.Pos.Raw.isValid_iff_exists_append]
  constructor
  · rintro ⟨unread, front, htext, rfl⟩
    exact ⟨front, String.ofList unread, htext, rfl⟩
  · rintro ⟨front, behind, htext, hk⟩
    refine ⟨behind.toList, front, by rw [String.ofList_toList, htext], ?_⟩
    exact (congrArg String.Pos.Raw.byteIdx hk).symm

/-- The place is what is told as an offset when that much is unread. -/
theorem IsAt.offsetOf_eq (h : IsAt text k s) : offsetOf (byteLength text.toList) s = k := by
  obtain ⟨front, rfl, rfl⟩ := h
  rw [offsetOf, byteLength_eq_utf8ByteSize, byteLength_eq_utf8ByteSize, String.ofList_toList, String.utf8ByteSize_append,
    Nat.add_sub_cancel]

/-- What is taken moves the place by its bytes. -/
theorem IsAt.behind (h : IsAt text k (s ++ t)) : IsAt text (k + byteLength s) t := by
  obtain ⟨front, rfl, rfl⟩ := h
  refine ⟨front ++ String.ofList s, ?_, ?_⟩
  · rw [String.ofList_append, String.append_assoc]
  · rw [String.utf8ByteSize_append, byteLength_eq_utf8ByteSize]

/-- A reader that leaves an end of the unread text goes on from its place. -/
theorem IsAt.goesTo (h : IsAt text k s) {read : Read α n} (hrest : read.rest <:+ s) : GoesTo text k read := by
  obtain ⟨taken, rfl⟩ := hrest
  exact ⟨_, Nat.le_add_right _ _, h.behind⟩

/-- A reader that has to take something goes on by a byte at least. -/
theorem IsAt.goesPast (h : IsAt text k s) {read : Read α s.length} (hrest : read.rest <:+ s) :
    GoesTo text (k + 1) read := by
  obtain ⟨taken, htaken⟩ := hrest
  have hne : taken ≠ [] := by
    rintro rfl
    exact absurd (congrArg List.length htaken) (Nat.ne_of_lt read.below)
  rw [← htaken] at h
  exact ⟨_, Nat.add_le_add_left (byteLength_pos_of_ne_nil hne) k, h.behind⟩

/-- A fault in the unread text is told at a place from there on. -/
theorem IsFaultIn.isToldFrom (h : IsFaultIn (byteLength text.toList) s e) (hs : IsAt text k s) : IsToldFrom text k e := by
  intro offset hoffset
  obtain ⟨t, ⟨taken, rfl⟩, rfl⟩ := h offset hoffset
  have hbehind := hs.behind
  rw [hbehind.offsetOf_eq]
  exact ⟨Nat.le_add_right _ _, t, hbehind⟩

/-- Where something has to be taken, the next place is a byte behind this one at least. -/
theorem Proceeds.goesPast {r : Except DescriptorError (Read α s.length)} (h : Proceeds (byteLength text.toList) s r)
    (hs : IsAt text k s) : Settles (IsToldFrom text k) (GoesTo text (k + 1)) r :=
  Settles.imp h (fun _ he => he.isToldFrom hs) fun _ hrest => hs.goesPast hrest

/-- If something is found, it takes a byte at least. -/
theorem MayProceed.goesPast {r : Except DescriptorError (Option (Read α s.length))}
    (h : MayProceed (byteLength text.toList) s r) (hs : IsAt text k s) :
    Settles (IsToldFrom text k) (fun found => ∀ read ∈ found, GoesTo text (k + 1) read) r :=
  Settles.imp h (fun _ he => he.isToldFrom hs) fun _ hfound read hread => hs.goesPast (hfound read hread)

/-! ## The jump over a code point -/

/-- The jump over the code point of an escape, from `k` to `k'`: either over four bytes, or, if the first one is a brace, over
the bytes up to the first closing brace and over the two braces. -/
inductive Jumps (k : Nat) (s : List Char) (k' : Nat) : Prop where
  | four (hopen : s.head? ≠ some '{') (hk : k' = k + 4)
  | braced {digits rest : List Char} (hs : s = '{' :: (digits ++ '}' :: rest)) (hfirst : '}' ∉ digits)
      (hk : k' = k + (byteLength digits + 2))

/-- Digits and braces of a code point take one byte each, so that they may be jumped over as bytes. -/
theorem utf8Size_of_isCodeChar (h : isCodeChar c = true) : c.utf8Size = 1 := by
  rcases (Bool.or_eq_true _ _).mp h with hplus | hhex
  · rw [eq_of_beq hplus]
    rfl
  · exact utf8Size_of_hexValue? hhex

/-- The digits of a code point are a byte long each, and no digit is a brace: so the reader is where the jump ends. -/
theorem IsAt.jumps (h : IsAt text k s) {read : Read Char s.length} (hread : readCodePoint? s = some read) :
    ∃ k', Jumps k s k' ∧ IsAt text k' read.rest := by
  obtain ⟨u, hu, hs⟩ := takes_readCodePoint?_iff.mp ⟨read.below, hread⟩
  generalize read.rest = rest at hs ⊢
  subst hs
  cases hu with
  | @four a b d e hc =>
    have hcode := isCodeChar_of_escapedNumber? hc
    refine ⟨k + 4, .four ?_ rfl, ?_⟩
    · intro hhead
      obtain rfl : a = '{' := Option.some.inj hhead
      exact absurd (hcode _ List.mem_cons_self) (by decide)
    · have hbehind := h.behind
      rwa [byteLength_eq_length fun c hc => utf8Size_of_isCodeChar (hcode c hc)] at hbehind
  | @braced digits hc =>
    have hshape : '{' :: (digits ++ ['}']) ++ rest = '{' :: (digits ++ '}' :: rest) := by simp
    refine ⟨_, .braced hshape ?_ rfl, ?_⟩
    · intro hmem
      exact absurd (isCodeChar_of_escapedNumber? hc _ hmem) (by decide)
    · have hbytes : byteLength ('{' :: (digits ++ ['}'])) = byteLength digits + 2 := by
        rw [byteLength, byteLength_append]
        exact Nat.add_comm 1 _
      exact hbytes ▸ h.behind

/-! ## Readers -/

/-- What the readers do at a place of a text where `s` is unread: they go on to a later place, or where perhaps nothing is
taken to one that is not before it, or they tell a fault from there on. -/
structure ReadersGoOn (text : String) (k : Nat) (s : List Char) : Prop where
  /-- A single character moves the place by its own bytes. -/
  char : ∀ c rest, s = c :: rest → IsAt text (k + c.utf8Size) rest
  wanted : ∀ wanted, ∀ read ∈ readChar? wanted s, GoesTo text (k + 1) read
  blank : GoesTo text k (skippedBlank () s)
  /-- The characters of a name or of a number. -/
  run : ∀ p, GoesTo text k (Read.ofRun p s)
  expected : ∀ wanted what,
    Settles (IsToldFrom text k) (GoesTo text (k + 1)) (expect (byteLength text.toList) wanted what s)
  /-- What stands between the braces after an escape's letter is cut out at places of the text, be it a number or not. -/
  cut : ∀ between rest, s = '{' :: (between ++ '}' :: rest) →
    IsAt text (k + 1) (between ++ '}' :: rest) ∧ IsAt text (k + 1 + byteLength between) ('}' :: rest)
  codePoint : ∀ read ∈ readCodePoint? s, ∃ k', Jumps k s k' ∧ IsAt text k' read.rest
  escape : ∀ read ∈ readEscape? s, GoesTo text (k + 1) read
  unit : ∀ quote, ∀ read ∈ readUnit? quote s, GoesTo text (k + 1) read
  /-- A string that does not end is told of where its quote stands. -/
  string : ∀ quote rest, s = quote :: rest →
    Settles (fun e => e = .unterminatedString k) (GoesTo text (k + 1)) (readString k quote rest)
  key : Settles (IsToldFrom text k) (GoesTo text (k + 1)) (readKey (byteLength text.toList) s)
  simple : Settles (IsToldFrom text k) (fun found => ∀ read ∈ found, GoesTo text (k + 1) read)
    (readSimple? (byteLength text.toList) s)
  literal : Settles (IsToldFrom text k) (fun found => ∀ read ∈ found, GoesTo text (k + 1) read)
    (read? (byteLength text.toList) s)
  entry : Settles (IsToldFrom text k) (GoesTo text (k + 1)) (readEntry (byteLength text.toList) s)
  entries : Settles (IsToldFrom text k) (GoesTo text (k + 1)) (readEntries (byteLength text.toList) s)

/-- At every place between two characters all readers go on to another one. -/
theorem readersGoOn (h : IsAt text k s) : ReadersGoOn text k s where
  char c rest hs := by
    subst hs
    exact IsAt.behind (s := [c]) h
  wanted wanted read hread := h.goesPast (rest_suffix_of_readChar? hread)
  blank := h.goesTo (skipBlank_suffix s)
  run p := h.goesTo (List.dropWhile_suffix p)
  expected wanted what := (proceeds_expect _ wanted what s).goesPast h
  cut between rest hs := by
    subst hs
    have hopened : IsAt text (k + 1) (between ++ '}' :: rest) := IsAt.behind (s := ['{']) h
    exact ⟨hopened, hopened.behind⟩
  codePoint read hread := h.jumps hread
  escape read hread := h.goesPast (rest_suffix_of_readEscape? hread)
  unit quote read hread := h.goesPast (rest_suffix_of_readUnit? hread)
  string quote rest hs := by
    subst hs
    have hbehind : IsAt text (k + quote.utf8Size) rest := IsAt.behind (s := [quote]) h
    unfold readString
    split
    · next body hbody =>
      obtain ⟨k', hk', hat⟩ := hbehind.goesTo (rest_suffix_of_readString? hbody)
      exact ⟨k', Nat.le_trans (Nat.add_le_add_left quote.utf8Size_pos k) hk', hat⟩
    · rfl
  key := (proceeds_readKey _ s).goesPast h
  simple := (mayProceed_readSimple? _ s).goesPast h
  literal := (mayProceed_read? _ s).goesPast h
  entry := (proceeds_readEntry _ s).goesPast h
  entries := (proceeds_readEntries _ s).goesPast h

end Literal

/-! ## Descriptors -/

namespace Descriptor

open Literal Text

/-- What is wrong with the values of a descriptor has no place. -/
theorem settles_idOf (total : Nat) (s : List Char) (value : Option Literal) :
    Settles (IsFaultIn total s) (fun _ => True) (idOf value) := by
  unfold idOf
  split
  · split
    · trivial
    · exact fun _ h => nomatch h
  all_goals exact fun _ h => nomatch h

/-- A default message that cannot be used is the fault of no place. -/
theorem settles_defaultMessageOf (total : Nat) (s : List Char) (value : Option Literal) :
    Settles (IsFaultIn total s) (fun _ => True) (defaultMessageOf value) := by
  unfold defaultMessageOf
  split
  · trivial
  · trivial
  · trivial
  · exact fun _ h => nomatch h

/-- An error about a descriptor is a fault in its text. -/
theorem settles_read (text : String) :
    Settles (IsFaultIn (byteLength text.toList) text.toList) (fun _ => True) (read text) := by
  refine (settles_entriesOf text).bind fun entries _ => ?_
  refine (settles_idOf _ _ (lastValue? "id" entries)).bind fun id _ => ?_
  exact (settles_defaultMessageOf _ _ (lastValue? "defaultMessage" entries)).bind fun _ _ => trivial

/-- The places of a text are those between its characters; at every one of them each reader goes on to another one, and
whatever a descriptor is refused for has such a place, if it has one. -/
theorem read_boundaries (text : String) :
    (∀ k, (∃ unread, IsAt text k unread) ↔ String.Pos.Raw.IsValid text ⟨k⟩) ∧
    (∀ k s, IsAt text k s → ReadersGoOn text k s) ∧
    ∀ e offset, read text = .error e → e.place? = some offset → ∃ unread, IsAt text offset unread := by
  refine ⟨fun k => isAt_iff_isValid, fun k s h => readersGoOn h, fun e offset h hplace => ?_⟩
  have hfault := (settles_read text).of_error h
  exact (hfault.isToldFrom (isAt_start text) offset hplace).2

/-- Behind a letter of two bytes and an escape in braces, a name without its colon. -/
theorem read_boundaries_escape :
    (IsAt "\x7b 'é\\u\x7be9\x7d' 1" 7 "\x7be9\x7d' 1".toList ∧
      ReadersGoOn "\x7b 'é\\u\x7be9\x7d' 1" 7 "\x7be9\x7d' 1".toList) ∧
    read "\x7b 'é\\u\x7be9\x7d' 1" = .error (.expected "':'" 13) ∧
    String.Pos.Raw.IsValid "\x7b 'é\\u\x7be9\x7d' 1" ⟨13⟩ := by
  have hat : IsAt "\x7b 'é\\u\x7be9\x7d' 1" 7 "\x7be9\x7d' 1".toList := ⟨"\x7b 'é\\u", by decide, by decide⟩
  have hread : read "\x7b 'é\\u\x7be9\x7d' 1" = .error (.expected "':'" 13) := by decide +kernel
  obtain ⟨hvalid, hgo, hplace⟩ := read_boundaries "\x7b 'é\\u\x7be9\x7d' 1"
  exact ⟨⟨hat, hgo 7 _ hat⟩, hread, (hvalid 13).mp (hplace _ 13 hread rfl)⟩

end Descriptor

end Phrasebook
