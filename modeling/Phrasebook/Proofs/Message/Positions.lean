import Phrasebook.Proofs.Message.Failures

/-!
# Positions in messages

A position is a number of characters, with the rest of the message unread behind it (`IsAt`). Every reader goes on from its
position and never back, one that has to take something goes on by a character at least, and a fault is told at a position
between its own and the end (`ReadersGoOn`). So a message is read to its end or refused at a place in it, and nothing is left
behind the message to find fault with (`read_positions`).
-/

namespace Phrasebook.Message

open Text Unicode

variable {α : Type} {n k : Nat} {p : Bool} {message : String} {s t rest : List Char} {e : FormatError} {nodes : List Node}

/-! ## Positions -/

/-- At the position, a number of characters, `unread` is the rest of the message. -/
structure IsAt (message : String) (k : Nat) (unread : List Char) : Prop where
  le : k ≤ message.length
  drop : message.toList.drop k = unread

/-- The reader has gone to a position that is not before `least`. -/
def GoesTo (message : String) (least : Nat) (read : Read α n) : Prop := ∃ k, least ≤ k ∧ IsAt message k read.rest

/-- If the error has a place, it is from the position on, and not behind the end of the message. -/
def IsToldFrom (message : String) (k : Nat) (e : FormatError) : Prop :=
  ∀ offset reason, e = .malformed offset reason → k ≤ offset ∧ offset ≤ message.length

/-- At the beginning the whole message is unread. -/
theorem isAt_start (message : String) : IsAt message 0 message.toList := ⟨Nat.zero_le _, rfl⟩

/-- A position and what is unread behind it make up the length of the message. -/
theorem IsAt.length_eq (h : IsAt message k s) : k + s.length = message.length := by
  rw [← h.drop, List.length_drop, String.length_toList]
  exact Nat.add_sub_cancel' h.le

/-- An end of what is unread is unread at the position that is known by its length. -/
theorem IsAt.of_suffix (h : IsAt message k s) (ht : t <:+ s) : IsAt message (message.length - t.length) t := by
  have hmessage : t <:+ message.toList := ht.trans (h.drop ▸ List.drop_suffix k message.toList)
  refine ⟨Nat.sub_le _ _, ?_⟩
  rw [← String.length_toList]
  exact (List.suffix_iff_eq_drop.mp hmessage).symm

/-- That position is not before the first one, and it is behind it if something has been taken. -/
theorem IsAt.le_of_suffix (h : IsAt message k s) (taken : Nat) (ht : t.length + taken ≤ s.length) :
    k + taken ≤ message.length - t.length := by
  have hlength := h.length_eq
  omega

/-- A reader that leaves an end of the unread text goes on from its position. -/
theorem IsAt.goesTo (h : IsAt message k s) {read : Read α n} (hrest : read.rest <:+ s) : GoesTo message k read :=
  ⟨_, h.le_of_suffix 0 hrest.length_le, h.of_suffix hrest⟩

/-- A reader that has to take something goes on by a character at least. -/
theorem IsAt.goesPast (h : IsAt message k s) {read : Read α s.length} (hrest : read.rest <:+ s) :
    GoesTo message (k + 1) read :=
  ⟨_, h.le_of_suffix 1 read.below, h.of_suffix hrest⟩

/-- An error in front of an end of the unread text is told from the position on. -/
theorem IsAt.isToldFrom (h : IsAt message k s) (ht : t <:+ s) (reason : String) :
    IsToldFrom message k (malformedAt message.length t reason) := by
  intro offset reason' he
  obtain ⟨rfl, -⟩ := FormatError.malformed.inj he
  exact ⟨h.le_of_suffix 0 ht.length_le, Nat.sub_le _ _⟩

/-- So a fault in the unread text is told between the position and the end. -/
theorem IsFaultIn.isToldFrom (h : IsFaultIn message.length s e) (hs : IsAt message k s) : IsToldFrom message k e := by
  rintro _ reason rfl
  obtain ⟨-, t, ht, rfl⟩ := h
  exact hs.isToldFrom ht reason _ reason rfl

/-- A reader that proceeds in the unread text goes on from the position, or fails behind it. -/
theorem Proceeds.goesOn {r : Except FormatError (Read α n)} (h : Proceeds message.length s r) (hs : IsAt message k s) :
    Settles (IsToldFrom message k) (GoesTo message k) r :=
  Settles.imp h (fun _ he => he.isToldFrom hs) fun _ hrest => hs.goesTo hrest

/-- Where something has to be taken, the reader comes to a later position. -/
theorem Proceeds.goesPast {r : Except FormatError (Read α s.length)} (h : Proceeds message.length s r)
    (hs : IsAt message k s) : Settles (IsToldFrom message k) (GoesTo message (k + 1)) r :=
  Settles.imp h (fun _ he => he.isToldFrom hs) fun _ hrest => hs.goesPast hrest

/-- A mark that is expected is such a thing. -/
theorem IsAt.expect (h : IsAt message k s) (wanted : Char) (reason : String) :
    Settles (IsToldFrom message k) (GoesTo message (k + 1)) (expect message.length wanted reason s) := by
  unfold Message.expect
  split
  · exact h.isToldFrom List.suffix_rfl reason
  · split
    · exact h.goesPast (List.suffix_cons ..)
    · exact h.isToldFrom List.suffix_rfl reason

/-- What the readers do at a position of a message where `s` is unread: they go on to a later one, or where perhaps nothing is
taken to one that is not before it, or they tell a fault from there on. -/
structure ReadersGoOn (message : String) (k : Nat) (s : List Char) : Prop where
  text : ∀ p q, ∃ k', k ≤ k' ∧ IsAt message k' (readText p q s).2
  token : GoesTo message k (readToken s)
  /-- White space; behind it the mark of an offset is looked for. -/
  blank : GoesTo message k (skippedBlank () s)
  expected : ∀ wanted reason,
    Settles (IsToldFrom message k) (GoesTo message (k + 1)) (expect message.length wanted reason s)
  name : Settles (IsToldFrom message k) (GoesTo message k) (readName message.length s)
  numberEnd : Settles (IsToldFrom message k) (GoesTo message (k + 1)) (readNumberEnd message.length s)
  offset : Settles (IsToldFrom message k) (GoesTo message k) (readOffset message.length s)
  kind : ∀ name, Settles (IsToldFrom message k) (GoesTo message (k + 1)) (readKind message.length name s)
  head : Settles (IsToldFrom message k) (GoesTo message (k + 1)) (readHead message.length s)
  pluralKey : Settles (IsToldFrom message k) (GoesTo message (k + 1)) (readPluralKey message.length s)
  selectKey : Settles (IsToldFrom message k) (GoesTo message (k + 1)) (readSelectKey message.length s)
  nodes : ∀ p n, Settles (IsToldFrom message k) (GoesTo message k) (readNodes message.length p n s)
  argument : ∀ p, Settles (IsToldFrom message k) (GoesTo message (k + 1)) (readArgument message.length p s)
  pluralBranches : Settles (IsToldFrom message k) (GoesTo message (k + 1)) (readPluralBranches message.length s)
  selectBranches : ∀ p, Settles (IsToldFrom message k) (GoesTo message (k + 1)) (readSelectBranches message.length p s)

/-- All readers of messages do, the recursive ones among them. -/
theorem readersGoOn (h : IsAt message k s) : ReadersGoOn message k s where
  text p q :=
    have hrest := rest_readText_suffix p q s
    ⟨_, h.le_of_suffix 0 hrest.length_le, h.of_suffix hrest⟩
  token := h.goesTo (rest_readToken_suffix s)
  blank := h.goesTo (skipBlank_suffix s)
  expected := h.expect
  name := (proceeds_readName _ s).goesOn h
  numberEnd := (proceeds_readNumberEnd _ s).goesPast h
  offset := (proceeds_readOffset _ s).goesOn h
  kind name := (proceeds_readKind _ name s).goesPast h
  head := (proceeds_readHead _ s).goesPast h
  pluralKey := (proceeds_readPluralKey _ s).goesPast h
  selectKey := (proceeds_readSelectKey _ s).goesPast h
  nodes p n := ((allProceed _ s).nodes p n).goesOn h
  argument p := ((allProceed _ s).argument p).goesPast h
  pluralBranches := (allProceed _ s).pluralBranches.goesPast h
  selectBranches p := ((allProceed _ s).selectBranches p).goesPast h

/-! ## Messages -/

/-- At every position each reader goes on or tells a fault from there to the end; a round of branches begins with a key, and so
takes something. A message is read to its end or not at all, what is left behind the nodes is never at fault, and every fault
of the text has a place in the message. -/
theorem read_positions (message : String) :
    (∀ k s, IsAt message k s → ReadersGoOn message k s) ∧
    (∀ nodes, read message = .ok nodes ↔ Yields (readNodes message.length false false message.toList) nodes []) ∧
    (∀ e, read message = .error e ↔ readNodes message.length false false message.toList = .error e) ∧
    ∀ offset reason, read message = .error (.malformed offset reason) →
      offset ≤ message.length ∧ reason ≠ "unexpected '\x7d'" := by
  refine ⟨fun k s h => readersGoOn h, fun nodes => ?_, fun e => read_eq_error_iff, fun offset reason h => ?_⟩
  · rw [read_eq_ok_iff, yields_readNodes_iff]
  · have hfault := isFaultIn_of_read h
    exact ⟨(hfault.isToldFrom (isAt_start message) _ _ rfl).2, hfault.1⟩

/-- An offset that is no number, at whose mark the readers are when they look for it. -/
theorem read_positions_offset :
    (IsAt "\x7bn, plural, offset:x other \x7b\x7d\x7d" 12 "offset:x other \x7b\x7d\x7d".toList ∧
      ReadersGoOn "\x7bn, plural, offset:x other \x7b\x7d\x7d" 12 "offset:x other \x7b\x7d\x7d".toList) ∧
    read "\x7bn, plural, offset:x other \x7b\x7d\x7d" = .error (.malformed 20 "invalid plural offset") ∧
    20 ≤ "\x7bn, plural, offset:x other \x7b\x7d\x7d".length := by
  have hat : IsAt "\x7bn, plural, offset:x other \x7b\x7d\x7d" 12 "offset:x other \x7b\x7d\x7d".toList :=
    ⟨by decide, by decide⟩
  have hread : read "\x7bn, plural, offset:x other \x7b\x7d\x7d" = .error (.malformed 20 "invalid plural offset") := by
    decide +kernel
  obtain ⟨hgo, -, -, hplace⟩ := read_positions "\x7bn, plural, offset:x other \x7b\x7d\x7d"
  exact ⟨⟨hat, hgo 12 _ hat⟩, hread, (hplace _ _ hread).1⟩

end Phrasebook.Message
