import Phrasebook.Proofs.Message.Reading
import Phrasebook.Proofs.Text.Unread

/-!
# Where readers of messages stop

Every reader leaves an end of its text, and if it fails, it is at a place in its text or for what it has read of it
(`Proceeds`). Reader after reader this follows from what the readers do that it calls, and for those of nodes, arguments and
branches by induction on the length of the text (`allProceed`). Outside branches nothing is left, so that a message is read by
the reader of its nodes (`read_eq`).
-/

namespace Phrasebook.Message

open Text Unicode

variable {α β : Type} {n m total : Nat} {p : Bool} {s t rest : List Char} {nodes : List Node}
  {e : FormatError} {reason : String}

/-! ## Faults -/

/-- What is said of a message that goes on behind its last node. -/
def behindMessage : String := "unexpected '\x7d'"

/-- The error may be told by a reader of what is unread of a message of `total` characters: it is one of the text, and if it
has a place, that is in what is unread. -/
def IsFaultIn (total : Nat) (s : List Char) : FormatError → Prop
  | .malformed offset reason => reason ≠ behindMessage ∧ ∃ t, t <:+ s ∧ offset = total - t.length
  | .missingOther _ => True
  | .unsupportedType _ => True
  | .missingArgument _ => False
  | .notANumber _ => False

/-- A fault in an end of a text is one in the text. -/
theorem IsFaultIn.mono (h : IsFaultIn total s e) (hs : s <:+ t) : IsFaultIn total t e := by
  cases e with
  | malformed offset reason =>
    obtain ⟨hreason, u, hu, hoffset⟩ := h
    exact ⟨hreason, u, hu.trans hs, hoffset⟩
  | missingOther | unsupportedType | missingArgument | notANumber => exact h

/-- A reader of the text leaves an end of it, or tells a fault in it. -/
def Proceeds (total : Nat) (s : List Char) (r : Except FormatError (Read α n)) : Prop :=
  Settles (IsFaultIn total s) (fun read => read.rest <:+ s) r

/-- A reader that is called on an end of the text proceeds in the text as well. -/
theorem Proceeds.mono {r : Except FormatError (Read α n)} (h : Proceeds total s r) (hs : s <:+ t) : Proceeds total t r :=
  Settles.imp h (fun _ he => he.mono hs) fun _ hrest => hrest.trans hs

/-- A reader may fail at any place behind which an end of its text stands. -/
theorem proceeds_malformed (ht : t <:+ s) (hreason : reason ≠ behindMessage) :
    Proceeds total s (.error (malformedAt total t reason) : Except FormatError (Read α n)) :=
  ⟨hreason, t, ht, rfl⟩

/-- Two readers after one another proceed if the second does on whatever the first leaves. -/
theorem Proceeds.bind {r : Except FormatError (Read α n)} {f : Read α n → Except FormatError (Read β m)}
    (h : Proceeds total s r) (hf : ∀ read, read.rest <:+ s → Proceeds total s (f read)) : Proceeds total s (r >>= f) :=
  Settles.bind h hf

/-! ## Single readers -/

/-- A token is a front of the text, perhaps behind white space. -/
theorem rest_readToken_suffix (s : List Char) : (readToken s).rest <:+ s :=
  (List.dropWhile_suffix _).trans (skipBlank_suffix s)

/-- Quoted or not, text is taken from the front. -/
theorem rest_readText_suffix (p : Bool) (q : Quoting) (s : List Char) : (readText p q s).2 <:+ s := by
  induction s generalizing q with
  | nil => rw [readText_nil]
  | cons c s ih =>
    cases hstep : textStep p q c with
    | none => rw [readText_of_stop hstep]
    | some step =>
      rw [readText_of_textStep hstep]
      exact (ih _).trans (List.suffix_cons ..)

/-- This holds as well where text that is empty does not count. -/
theorem rest_suffix_of_readPlain? {read : Read (List Char) s.length} (h : readPlain? p s = some read) :
    read.rest <:+ s := by
  unfold readPlain? at h
  split at h
  · cases h
  · split at h
    · obtain rfl := Option.some.inj h
      exact rest_readText_suffix p .off _
    · cases h

/-- A reader of one mark fails where the mark is missing. -/
theorem proceeds_expect (total : Nat) (wanted : Char) (reason : String) (hreason : reason ≠ behindMessage) (s : List Char) :
    Proceeds total s (expect total wanted reason s) := by
  unfold expect
  split
  · exact proceeds_malformed List.suffix_rfl hreason
  · split
    · exact List.suffix_cons ..
    · exact proceeds_malformed List.suffix_rfl hreason

/-- A name that is empty or has other characters than names have is the fault of the place behind it. -/
theorem proceeds_readName (total : Nat) (s : List Char) : Proceeds total s (readName total s) := by
  unfold readName
  dsimp only
  split
  · exact proceeds_malformed (rest_readToken_suffix s) (by decide)
  · split
    · exact proceeds_malformed (rest_readToken_suffix s) (by decide)
    · exact rest_readToken_suffix s

/-- The end of a number argument, with its style or without. -/
theorem proceeds_readNumberEnd (total : Nat) (s : List Char) : Proceeds total s (readNumberEnd total s) := by
  have hstyle : (if s.head? = some ',' then Read.ofRun (· != '}') s else Read.nothing [] s).rest <:+ s := by
    split
    · exact List.dropWhile_suffix _
    · exact List.suffix_rfl
  exact ((proceeds_expect total '}' _ (by decide) _).mono hstyle).bind fun closed hclosed => hclosed

/-- The offset of a plural, if it has one. -/
theorem proceeds_readOffset (total : Nat) (s : List Char) : Proceeds total s (readOffset total s) := by
  unfold readOffset
  dsimp only
  split
  · exact skipBlank_suffix s
  · next mark hmark =>
    have htoken : (readToken mark.rest).rest <:+ s :=
      (rest_readToken_suffix _).trans ((rest_suffix_of_readPrefix? hmark).trans (skipBlank_suffix s))
    split
    · exact proceeds_malformed htoken (by decide)
    · exact htoken

/-- What follows the name of an argument: its kind, and what comes before its branches. -/
theorem proceeds_readKind (total : Nat) (name : String) (s : List Char) : Proceeds total s (readKind total name s) := by
  have hstart : skipBlank (readToken s).rest <:+ s := (skipBlank_suffix _).trans (rest_readToken_suffix s)
  unfold readKind
  dsimp only
  split
  · exact ((proceeds_readNumberEnd total _).mono hstart).bind fun closed hclosed => hclosed
  · refine ((proceeds_expect total ',' _ (by decide) _).mono hstart).bind fun comma hcomma => ?_
    exact ((proceeds_readOffset total _).mono hcomma).bind fun offset hoffset => hoffset
  · exact ((proceeds_expect total ',' _ (by decide) _).mono hstart).bind fun comma hcomma => hcomma
  · exact proceeds_malformed hstart (by decide)
  · exact trivial

/-- An argument up to its branches: a value, a number, or what a plural or select begins with. -/
theorem proceeds_readHead (total : Nat) (s : List Char) : Proceeds total s (readHead total s) := by
  refine (proceeds_readName total s).bind fun name hname => ?_
  split
  · exact proceeds_malformed (List.nil_suffix) (by decide)
  · next c hc =>
    have hrest : c.rest <:+ s := (rest_suffix_of_readVisible? hc).trans hname
    split
    · exact hrest
    · split
      · exact ((proceeds_readKind total _ _).mono hrest).bind fun head hhead => hhead
      · exact proceeds_malformed hrest (by decide)

/-- Why a selector names no key is said in words of its own. -/
theorem ne_behindMessage_of_pluralKey {selector : String} (h : pluralKey selector = .error reason) :
    reason ≠ behindMessage := by
  unfold pluralKey at h
  split at h
  · split at h
    · cases h
    · obtain rfl := Except.error.inj h
      decide
  · split at h
    · cases h
    · obtain rfl := Except.error.inj h
      decide

/-- The key of a branch of a plural, with the brace behind it. -/
theorem proceeds_readPluralKey (total : Nat) (s : List Char) : Proceeds total s (readPluralKey total s) := by
  unfold readPluralKey
  dsimp only
  split
  · next reason hkey => exact proceeds_malformed (rest_readToken_suffix s) (ne_behindMessage_of_pluralKey hkey)
  · have hstart : skipBlank (readToken s).rest <:+ s := (skipBlank_suffix _).trans (rest_readToken_suffix s)
    exact ((proceeds_expect total '{' _ (by decide) _).mono hstart).bind fun brace hbrace => hbrace

/-- The key of a branch of a select, with the brace behind it. -/
theorem proceeds_readSelectKey (total : Nat) (s : List Char) : Proceeds total s (readSelectKey total s) := by
  unfold readSelectKey
  dsimp only
  split
  · exact proceeds_malformed (rest_readToken_suffix s) (by decide)
  · have hstart : skipBlank (readToken s).rest <:+ s := (skipBlank_suffix _).trans (rest_readToken_suffix s)
    exact ((proceeds_expect total '{' _ (by decide) _).mono hstart).bind fun brace hbrace => hbrace

/-! ## Messages -/

/-- The readers of nodes, arguments and branches proceed in the text. -/
structure AllProceed (total : Nat) (s : List Char) : Prop where
  nodes : ∀ p n, Proceeds total s (readNodes total p n s)
  argument : ∀ p, Proceeds total s (readArgument total p s)
  pluralBranches : Proceeds total s (readPluralBranches total s)
  selectBranches : ∀ p, Proceeds total s (readSelectBranches total p s)

section Shorter

variable (ih : ∀ t : List Char, t.length < s.length → AllProceed total t)
include ih

/-- Plain text, an argument or a number sign stands in front, and what is read behind it is shorter. -/
theorem proceeds_nodes_of_shorter (p n : Bool) : Proceeds total s (readNodes total p n s) := by
  rw [readNodes.eq_def]
  split
  · next text htext =>
    have hrest := rest_suffix_of_readPlain? htext
    exact (((ih _ text.below).nodes p n).mono hrest).bind fun nodes hnodes => hnodes
  · split
    · exact List.suffix_rfl
    · next c rest _ _ =>
      have hshorter : rest.length < (c :: rest).length := Nat.lt_succ_self _
      have hrest : rest <:+ c :: rest := List.suffix_cons ..
      split
      · refine (((ih _ hshorter).argument p).mono hrest).bind fun node hnode => ?_
        have hnodes := (ih _ (Nat.lt_trans node.below hshorter)).nodes p n
        exact (hnodes.mono hnode).bind fun nodes hnodes => hnodes
      · split
        · split
          · exact List.suffix_rfl
          · exact proceeds_malformed List.suffix_rfl (by decide)
        · exact (((ih _ hshorter).nodes p n).mono hrest).bind fun nodes hnodes => hnodes

/-- Branches are read behind the head of their argument. That `other` is missing among them is told without a place. -/
theorem proceeds_argument_of_shorter (p : Bool) : Proceeds total s (readArgument total p s) := by
  rw [readArgument]
  refine (proceeds_readHead total s).bind fun head hhead => ?_
  split
  · exact hhead
  · exact hhead
  · refine ((ih _ head.below).pluralBranches.mono hhead).bind fun branches hbranches => ?_
    split
    · exact hbranches
    · exact trivial
  · refine (((ih _ head.below).selectBranches p).mono hhead).bind fun branches hbranches => ?_
    split
    · exact hbranches
    · exact trivial

/-- A key, the nodes of its branch, and the branches behind it. -/
theorem proceeds_pluralBranches_of_shorter : Proceeds total s (readPluralBranches total s) := by
  rw [readPluralBranches]
  split
  · next closed hclosed => exact rest_suffix_of_readMark? hclosed
  · refine (proceeds_readPluralKey total s).bind fun key hkey => ?_
    refine (((ih _ key.below).nodes true true).mono hkey).bind fun body hbody => ?_
    refine ((proceeds_expect total '}' _ (by decide) body.rest).mono hbody).bind fun closed hclosed => ?_
    have hbranches := (ih _ (key.andThen (body.perhapsThen closed).afterOne).below).pluralBranches
    exact (hbranches.mono hclosed).bind fun branches hbranches => hbranches

/-- The same for a select, whose branches belong to the plural around it, if there is one. -/
theorem proceeds_selectBranches_of_shorter (p : Bool) : Proceeds total s (readSelectBranches total p s) := by
  rw [readSelectBranches]
  split
  · next closed hclosed => exact rest_suffix_of_readMark? hclosed
  · refine (proceeds_readSelectKey total s).bind fun key hkey => ?_
    refine (((ih _ key.below).nodes p true).mono hkey).bind fun body hbody => ?_
    refine ((proceeds_expect total '}' _ (by decide) body.rest).mono hbody).bind fun closed hclosed => ?_
    have hbranches := (ih _ (key.andThen (body.perhapsThen closed).afterOne).below).selectBranches p
    exact (hbranches.mono hclosed).bind fun branches hbranches => hbranches

end Shorter

/-- By induction on the length of the text. -/
theorem allProceed (total : Nat) (s : List Char) : AllProceed total s := by
  induction hs : s.length using Nat.strongRecOn generalizing s with
  | ind k ih =>
    subst hs
    have hshorter : ∀ t : List Char, t.length < s.length → AllProceed total t := fun t ht => ih t.length ht t rfl
    exact ⟨proceeds_nodes_of_shorter hshorter, proceeds_argument_of_shorter hshorter,
      proceeds_pluralBranches_of_shorter hshorter, proceeds_selectBranches_of_shorter hshorter⟩

/-! ## The end of a message -/

/-- Outside branches, nodes are read up to the end. -/
theorem Reads.rest_eq_nil {q : Quoting} {places : List ArgumentPlace}
    (h : Reads (.nodes q p false nodes) s rest places) : rest = [] := by
  generalize hpart : Part.nodes q p false nodes = part at h
  induction h generalizing q nodes with
  | done => rfl
  | text _ _ ih => cases hpart; exact ih rfl
  | closed => cases hpart
  | pound _ _ ih => cases hpart; exact ih rfl
  | argument _ _ _ _ ih => cases hpart; exact ih rfl
  | value | number | plural | select | pluralEnd | pluralBranch | selectEnd | selectBranch => cases hpart

/-- Nodes outside of branches take the whole text. -/
theorem yields_readNodes_rest (h : Yields (readNodes total p false s) nodes rest) :
    rest = [] := by
  obtain ⟨places, hreads⟩ := yields_readNodes_iff.mp h
  exact hreads.rest_eq_nil

/-- A message is read by the reader of its nodes. -/
theorem read_eq (message : String) :
    read message = (readNodes message.length false false message.toList).map Read.value := by
  unfold read
  simp only [← String.length_toList]
  cases hnodes : readNodes message.toList.length false false message.toList with
  | error e => rfl
  | ok nodes =>
    have hrest : nodes.rest = [] := yields_readNodes_rest (hnodes ▸ yields_ok_iff.mpr ⟨rfl, rfl⟩)
    have hempty : nodes.rest.isEmpty = true := by rw [hrest]; rfl
    exact if_pos hempty

/-- So a message cannot be read for the reason that its nodes cannot be. -/
theorem read_eq_error_iff {message : String} :
    read message = .error e ↔ readNodes message.length false false message.toList = .error e := by
  rw [read_eq]
  cases readNodes message.length false false message.toList with
  | ok nodes => exact iff_of_false nofun nofun
  | error e' => exact ⟨fun h => congrArg _ (Except.error.inj h), fun h => congrArg _ (Except.error.inj h)⟩

/-- An error in reading a message is at a place in the message, or has none. -/
theorem isFaultIn_of_read {message : String} (h : read message = .error e) :
    IsFaultIn message.length message.toList e :=
  ((allProceed _ _).nodes false false).of_error (read_eq_error_iff.mp h)

end Phrasebook.Message
