import Phrasebook.Proofs.Message.Heads

/-!
# Messages are read as the grammar says

The readers of `Message.read` and the grammar `Reads` take each other's steps, so a message is read as a tree exactly if it
is a text of this tree (`read_eq_ok_iff`).
-/

namespace Phrasebook.Message

open Text Unicode

variable {total : Nat} {p n : Bool} {q q' : Quoting} {c : Char} {s t rest out : List Char} {nodes : List Node}
  {places : List ArgumentPlace}

/-! ## Text, one character -/

theorem readText_nil : readText p q [] = (q.atEnd, []) := by cases q <;> rfl

/-- A character of text is passed on as its step says. -/
theorem readText_of_textStep (h : textStep p q c = some (out, q')) (s : List Char) :
    readText p q (c :: s) = (out ++ (readText p q' s).1, (readText p q' s).2) := by
  cases q <;> grind [textStep, readText, consRead]

/-- Text ends only before a mark. -/
theorem isMark_of_textStep (h : textStep p q c = none) : isMark p c = true := by
  cases q <;> grind [textStep]

theorem readText_of_stop (h : textStep p q c = none) (s : List Char) : readText p q (c :: s) = ([], c :: s) := by
  cases q <;> grind [textStep, readText]

/-- Outside quotes, every mark ends the text. -/
theorem textStep_off_of_isMark (h : isMark p c = true) : textStep p .off c = none := by
  rw [textStep, if_pos h]

/-- The nodes do not begin with text. -/
def NotText : List Node → Prop
  | .text _ :: _ => False
  | _ => True

theorem NotText.append {node : Node} (h : NotText [node]) (nodes : List Node) : NotText (node :: nodes) := by
  cases node <;> trivial

/-- Text in front of text is one text. -/
theorem prepend_consText (h : NotText nodes) (out text : List Char) :
    prepend out (consText text nodes) = consText (out ++ text) nodes := by
  cases text with
  | nil =>
    rw [List.append_nil]
    cases nodes with
    | nil => rfl
    | cons node nodes => cases node <;> first | rfl | exact absurd h id
  | cons d text => simp [consText, prepend]

/-! ## Readers, one step -/

theorem yields_readNodes_nil_iff :
    Yields (readNodes total p n []) nodes rest ↔ nodes = [] ∧ rest = [] := by
  rw [readNodes]
  exact yields_ok_iff.trans ⟨fun h => ⟨h.1.symm, h.2.symm⟩, fun h => ⟨h.1.symm, h.2.symm⟩⟩

/-- At a character of text, all the text up to the next mark is read. -/
theorem yields_readNodes_text_iff (hc : isMark p c = false) : Yields (readNodes total p n (c :: s)) nodes rest ↔
    ∃ others, Yields (readNodes total p n (readText p .off (c :: s)).2) others rest ∧
      nodes = consText (readText p .off (c :: s)).1 others := by
  have hplain : readPlain? p (c :: s) = some ⟨(readText p .off (c :: s)).1, (readText p .off (c :: s)).2,
      length_readText_lt hc⟩ := by
    rw [readPlain?, dif_pos hc]
  rw [readNodes, hplain]
  constructor
  · intro h
    obtain ⟨others, t, _, hothers, h⟩ := h.of_bind
    obtain ⟨hnodes, hrest⟩ := yields_ok_iff.mp h
    rw [show rest = t from hrest.symm]
    exact ⟨others, hothers, hnodes.symm⟩
  · rintro ⟨others, hothers, rfl⟩
    exact Yields.bind hothers fun below => yields_ok_iff.mpr ⟨rfl, rfl⟩

theorem readPlain?_of_isMark (hc : isMark p c = true) (s : List Char) : readPlain? p (c :: s) = none := by
  rw [readPlain?, dif_neg (by simp [hc])]

/-- At an opening brace, an argument is read and then the nodes behind it. -/
theorem yields_readNodes_brace_iff : Yields (readNodes total p n ('{' :: s)) nodes rest ↔
    ∃ node t others, Yields (readArgument total p s) node t ∧ Yields (readNodes total p n t) others rest ∧
      nodes = node :: others := by
  rw [readNodes, readPlain?_of_isMark rfl]
  constructor
  · intro h
    obtain ⟨node, t, _, hnode, h⟩ := h.of_bind
    obtain ⟨others, t', _, hothers, h⟩ := h.of_bind
    obtain ⟨hnodes, hrest⟩ := yields_ok_iff.mp h
    rw [show rest = t' from hrest.symm]
    exact ⟨node, t, others, hnode, hothers, hnodes.symm⟩
  · rintro ⟨node, t, others, hnode, hothers, rfl⟩
    refine Yields.bind hnode fun below => ?_
    exact Yields.bind hothers fun below => yields_ok_iff.mpr ⟨rfl, rfl⟩

/-- At a closing brace, the nodes of a branch end. -/
theorem yields_readNodes_close_iff : Yields (readNodes total p n ('}' :: s)) nodes rest ↔
    n = true ∧ nodes = [] ∧ rest = '}' :: s := by
  rw [readNodes, readPlain?_of_isMark rfl]
  cases n with
  | false => simp [not_yields_error]
  | true =>
    refine (yields_ok_iff).trans ⟨fun h => ⟨rfl, h.1.symm, h.2.symm⟩, fun h => ⟨h.2.1.symm, h.2.2.symm⟩⟩

/-- In a plural, a number sign is a node. -/
theorem yields_readNodes_pound_iff : Yields (readNodes total true n ('#' :: s)) nodes rest ↔
    ∃ others, Yields (readNodes total true n s) others rest ∧ nodes = .pound :: others := by
  rw [readNodes, readPlain?_of_isMark rfl]
  constructor
  · intro h
    obtain ⟨others, t, _, hothers, h⟩ := h.of_bind
    obtain ⟨hnodes, hrest⟩ := yields_ok_iff.mp h
    rw [show rest = t from hrest.symm]
    exact ⟨others, hothers, hnodes.symm⟩
  · rintro ⟨others, hothers, rfl⟩
    exact Yields.bind hothers fun below => yields_ok_iff.mpr ⟨rfl, rfl⟩

/-- Where a branch begins, the branches do not end. -/
theorem readMark?_of_keyText {selector : String} {a : List Char} (ha : KeyText selector a) (s : List Char) :
    readMark? '}' (a ++ s) = none := by
  obtain ⟨hb, hselector, hb'⟩ := ha
  obtain ⟨c, u, hc⟩ := List.exists_cons_of_ne_nil hselector.1
  have htoken : isTokenChar c = true := hselector.2 c (by rw [hc]; exact List.mem_cons_self)
  have hne : c ≠ '}' := by
    rintro rfl
    cases htoken
  rw [hc, List.append_assoc, List.append_assoc, List.cons_append]
  exact readMark?_of_ne hb (isBlank_of_isTokenChar htoken) hne

/-- The branches of a plural end at a closing brace, or there is a key, a branch and the branches behind it. -/
theorem yields_readPluralBranches_iff {branches : List (PluralKey × List Node)} :
    Yields (readPluralBranches total s) branches rest ↔
      (branches = [] ∧ ∃ b, Blanks b ∧ s = b ++ '}' :: rest) ∨
        ∃ selector a key u nodes t others, KeyText selector a ∧ pluralKey selector = .ok key ∧ s = a ++ u ∧
          Yields (readNodes total true true u) nodes ('}' :: t) ∧ Yields (readPluralBranches total t) others rest ∧
          branches = (key, nodes) :: others := by
  rw [readPluralBranches]
  constructor
  · intro h
    split at h
    · next closed hclosed =>
      obtain ⟨b, hb, hs⟩ := readMark?_split hclosed
      obtain ⟨hbranches, hrest⟩ := yields_ok_iff.mp h
      rw [show closed.rest = rest from hrest] at hs
      exact .inl ⟨hbranches.symm, b, hb, hs⟩
    · obtain ⟨key, u, _, hkey, h⟩ := h.of_bind
      obtain ⟨nodes, v, _, hnodes, h⟩ := h.of_bind
      obtain ⟨_, t, _, hclosed, h⟩ := h.of_bind
      obtain ⟨others, t', _, hothers, h⟩ := h.of_bind
      obtain ⟨hbranches, hrest⟩ := yields_ok_iff.mp h
      obtain ⟨selector, a, ha, hselector, hs⟩ := yields_readPluralKey_iff.mp hkey
      have hv : v = '}' :: t := yields_expect_iff.mp hclosed
      rw [hv] at hnodes
      rw [show rest = t' from hrest.symm]
      exact .inr ⟨selector, a, key, u, nodes, t, others, ha, hselector, hs, hnodes, hothers, hbranches.symm⟩
  · rintro (⟨rfl, b, hb, rfl⟩ | ⟨selector, a, key, u, nodes, t, others, ha, hkey, rfl, hnodes, hothers, rfl⟩)
    · obtain ⟨_, hclosed⟩ := readMark?_append '}' rest hb (by decide)
      rw [hclosed]
      exact yields_ok_iff.mpr ⟨rfl, rfl⟩
    · rw [readMark?_of_keyText ha]
      refine Yields.bind (yields_readPluralKey_iff.mpr ⟨selector, a, ha, hkey, rfl⟩) fun below => ?_
      refine Yields.bind hnodes fun below => ?_
      refine Yields.bind (yields_expect_iff.mpr rfl) fun below => ?_
      exact Yields.bind hothers fun below => yields_ok_iff.mpr ⟨rfl, rfl⟩

/-- The branches of a select end at a closing brace, or there is a key, a branch and the branches behind it. -/
theorem yields_readSelectBranches_iff {branches : List (String × List Node)} :
    Yields (readSelectBranches total p s) branches rest ↔
      (branches = [] ∧ ∃ b, Blanks b ∧ s = b ++ '}' :: rest) ∨
        ∃ key a u nodes t others, KeyText key a ∧ s = a ++ u ∧ Yields (readNodes total p true u) nodes ('}' :: t) ∧
          Yields (readSelectBranches total p t) others rest ∧ branches = (key, nodes) :: others := by
  rw [readSelectBranches]
  constructor
  · intro h
    split at h
    · next closed hclosed =>
      obtain ⟨b, hb, hs⟩ := readMark?_split hclosed
      obtain ⟨hbranches, hrest⟩ := yields_ok_iff.mp h
      rw [show closed.rest = rest from hrest] at hs
      exact .inl ⟨hbranches.symm, b, hb, hs⟩
    · obtain ⟨key, u, _, hkey, h⟩ := h.of_bind
      obtain ⟨nodes, v, _, hnodes, h⟩ := h.of_bind
      obtain ⟨_, t, _, hclosed, h⟩ := h.of_bind
      obtain ⟨others, t', _, hothers, h⟩ := h.of_bind
      obtain ⟨hbranches, hrest⟩ := yields_ok_iff.mp h
      obtain ⟨a, ha, hs⟩ := yields_readSelectKey_iff.mp hkey
      have hv : v = '}' :: t := yields_expect_iff.mp hclosed
      rw [hv] at hnodes
      rw [show rest = t' from hrest.symm]
      exact .inr ⟨key, a, u, nodes, t, others, ha, hs, hnodes, hothers, hbranches.symm⟩
  · rintro (⟨rfl, b, hb, rfl⟩ | ⟨key, a, u, nodes, t, others, ha, rfl, hnodes, hothers, rfl⟩)
    · obtain ⟨_, hclosed⟩ := readMark?_append '}' rest hb (by decide)
      rw [hclosed]
      exact yields_ok_iff.mpr ⟨rfl, rfl⟩
    · rw [readMark?_of_keyText ha]
      refine Yields.bind (yields_readSelectKey_iff.mpr ⟨a, ha, rfl⟩) fun below => ?_
      refine Yields.bind hnodes fun below => ?_
      refine Yields.bind (yields_expect_iff.mpr rfl) fun below => ?_
      exact Yields.bind hothers fun below => yields_ok_iff.mpr ⟨rfl, rfl⟩

/-! ## What the grammar says is read -/

/-- The part is what its reader takes from the text. Nodes are the text up to the next mark in front of what is read from
there. -/
def Part.IsRead (total : Nat) : Part → List Char → List Char → Prop
  | .nodes q p n nodes, s, rest => ∃ others, NotText others ∧ nodes = consText (readText p q s).1 others ∧
      Yields (readNodes total p n (readText p q s).2) others rest
  | .argument p node, s, rest => NotText [node] ∧ Yields (readArgument total p s) node rest
  | .pluralBranches branches, s, rest => Yields (readPluralBranches total s) branches rest
  | .selectBranches p branches, s, rest => Yields (readSelectBranches total p s) branches rest

theorem Part.IsRead.yields (h : (Part.nodes .off p n nodes).IsRead total s rest) :
    Yields (readNodes total p n s) nodes rest := by
  obtain ⟨others, hothers, rfl, h⟩ := h
  cases s with
  | nil => exact h
  | cons c s =>
    cases hc : isMark p c with
    | true =>
      rw [readText_of_stop (textStep_off_of_isMark hc)] at h ⊢
      exact h
    | false => exact (yields_readNodes_text_iff hc).mpr ⟨others, h, rfl⟩

/-- Where text ends, the nodes are what is read from the mark on. -/
theorem Part.isRead_of_stop (hstep : textStep p q c = none) (hnodes : NotText nodes)
    (h : Yields (readNodes total p n (c :: s)) nodes rest) : (Part.nodes q p n nodes).IsRead total (c :: s) rest := by
  refine ⟨nodes, hnodes, ?_, ?_⟩
  · rw [readText_of_stop hstep]
    rfl
  · rw [readText_of_stop hstep]
    exact h

/-- What the grammar says is read, by induction on how the grammar says it. -/
theorem Reads.isRead {part : Part} (total : Nat) (h : Reads part s rest places) : part.IsRead total s rest := by
  induction h with
  | done =>
    refine ⟨[], trivial, ?_, ?_⟩
    · rw [readText_nil]
    · rw [readText_nil]
      exact yields_readNodes_nil_iff.mpr ⟨rfl, rfl⟩
  | text hstep _ ih =>
    obtain ⟨others, hothers, rfl, h⟩ := ih
    refine ⟨others, hothers, ?_, ?_⟩
    · rw [readText_of_textStep hstep, prepend_consText hothers]
    · rw [readText_of_textStep hstep]
      exact h
  | closed hstep => exact Part.isRead_of_stop hstep trivial (yields_readNodes_close_iff.mpr ⟨rfl, rfl, rfl⟩)
  | @pound _ p _ _ _ _ _ hstep _ ih =>
    have hp : p = true := by
      cases p with
      | true => rfl
      | false => cases isMark_of_textStep hstep
    subst hp
    exact Part.isRead_of_stop hstep trivial (yields_readNodes_pound_iff.mpr ⟨_, ih.yields, rfl⟩)
  | argument hstep _ _ ihnode ih =>
    refine Part.isRead_of_stop hstep ?_ (yields_readNodes_brace_iff.mpr ⟨_, _, _, ihnode.2, ih.yields, rfl⟩)
    exact ihnode.1.append _
  | value hhead =>
    refine ⟨trivial, ?_⟩
    rw [readArgument]
    exact Yields.bind (yields_readHead_iff.mpr hhead) fun below => yields_ok_iff.mpr ⟨rfl, rfl⟩
  | number hhead =>
    refine ⟨trivial, ?_⟩
    rw [readArgument]
    exact Yields.bind (yields_readHead_iff.mpr hhead) fun below => yields_ok_iff.mpr ⟨rfl, rfl⟩
  | plural hhead _ hother ih =>
    refine ⟨trivial, ?_⟩
    rw [readArgument]
    refine Yields.bind (yields_readHead_iff.mpr hhead) fun below => ?_
    refine Yields.bind ih fun below => ?_
    rw [if_pos hother]
    exact yields_ok_iff.mpr ⟨rfl, rfl⟩
  | select hhead _ hother ih =>
    refine ⟨trivial, ?_⟩
    rw [readArgument]
    refine Yields.bind (yields_readHead_iff.mpr hhead) fun below => ?_
    refine Yields.bind ih fun below => ?_
    rw [if_pos hother]
    exact yields_ok_iff.mpr ⟨rfl, rfl⟩
  | pluralEnd hb => exact yields_readPluralBranches_iff.mpr (.inl ⟨rfl, _, hb, rfl⟩)
  | pluralBranch ha hkey _ _ ihnodes ih =>
    exact yields_readPluralBranches_iff.mpr
      (.inr ⟨_, _, _, _, _, _, _, ha, hkey, rfl, ihnodes.yields, ih, rfl⟩)
  | selectEnd hb => exact yields_readSelectBranches_iff.mpr (.inl ⟨rfl, _, hb, rfl⟩)
  | selectBranch ha _ _ ihnodes ih =>
    exact yields_readSelectBranches_iff.mpr (.inr ⟨_, _, _, _, _, _, ha, rfl, ihnodes.yields, ih, rfl⟩)

/-! ## What is read is what the grammar says -/

/-- A mark is read alike in all states in which it ends the text. -/
theorem Reads.of_off (h : Reads (.nodes .off p n nodes) (c :: s) rest places) (hstep : textStep p q c = none) :
    ∃ places, Reads (.nodes q p n nodes) (c :: s) rest places := by
  cases h with
  | text hoff _ =>
    rw [textStep_off_of_isMark (isMark_of_textStep hstep)] at hoff
    cases hoff
  | closed _ => exact ⟨_, .closed hstep⟩
  | pound _ hnodes => exact ⟨_, .pound hstep hnodes⟩
  | argument _ hnode hnodes => exact ⟨_, .argument hstep hnode hnodes⟩

/-- Nodes at a mark or at the end do not begin with text. -/
theorem Reads.notText (h : Reads (.nodes .off p n nodes) s rest places) (hs : ∀ c, s.head? = some c → isMark p c = true) :
    NotText nodes := by
  obtain ⟨others, hothers, hnodes, -⟩ := h.isRead 0
  have htext : (readText p .off s).1 = [] := by
    cases s with
    | nil => rfl
    | cons c s => rw [readText_of_stop (textStep_off_of_isMark (hs c rfl))]
  rw [hnodes, htext]
  exact hothers

/-- The text up to a mark or to the end, in front of what is read from there. -/
theorem reads_of_readText (q : Quoting) (s : List Char) (hnodes : NotText nodes)
    (h : Reads (.nodes .off p n nodes) (readText p q s).2 rest places) :
    ∃ places, Reads (.nodes q p n (consText (readText p q s).1 nodes)) s rest places := by
  induction s generalizing q with
  | nil =>
    rw [readText_nil] at h ⊢
    cases h with
    | done => exact ⟨_, .done⟩
  | cons c s ih =>
    cases hstep : textStep p q c with
    | none =>
      rw [readText_of_stop hstep] at h ⊢
      exact h.of_off hstep
    | some step =>
      obtain ⟨out, q'⟩ := step
      rw [readText_of_textStep hstep] at h ⊢
      obtain ⟨places, hreads⟩ := ih q' h
      rw [← prepend_consText hnodes]
      exact ⟨places, .text hstep hreads⟩

/-- Text is read up to a mark. -/
theorem isMark_of_readText {q : Quoting} (h : (readText p q s).2.head? = some c) : isMark p c = true := by
  induction s generalizing q with
  | nil =>
    rw [readText_nil] at h
    cases h
  | cons d s ih =>
    cases hstep : textStep p q d with
    | none =>
      rw [readText_of_stop hstep] at h
      obtain rfl := Option.some.inj h
      exact isMark_of_textStep hstep
    | some step =>
      rw [readText_of_textStep hstep] at h
      exact ih h

/-- Whatever is read from the text stands there by the grammar. -/
structure IsSound (total : Nat) (s : List Char) : Prop where
  nodes : ∀ {p n nodes rest}, Yields (readNodes total p n s) nodes rest →
    ∃ places, Reads (.nodes .off p n nodes) s rest places
  argument : ∀ {p node rest}, Yields (readArgument total p s) node rest → ∃ places, Reads (.argument p node) s rest places
  pluralBranches : ∀ {branches rest}, Yields (readPluralBranches total s) branches rest →
    ∃ places, Reads (.pluralBranches branches) s rest places
  selectBranches : ∀ {p branches rest}, Yields (readSelectBranches total p s) branches rest →
    ∃ places, Reads (.selectBranches p branches) s rest places

variable (ih : ∀ t : List Char, t.length < s.length → IsSound total t)
include ih

/-- The nodes that are read are nodes of the grammar, if shorter texts are read soundly. -/
theorem reads_nodes_of_shorter (h : Yields (readNodes total p n s) nodes rest) :
    ∃ places, Reads (.nodes .off p n nodes) s rest places := by
  cases s with
  | nil =>
    obtain ⟨rfl, rfl⟩ := yields_readNodes_nil_iff.mp h
    exact ⟨_, .done⟩
  | cons c s =>
    cases hc : isMark p c with
    | false =>
      obtain ⟨others, hothers, rfl⟩ := (yields_readNodes_text_iff hc).mp h
      -- the rest begins with a mark, so the text in front of it is not joined with other text
      obtain ⟨places, hreads⟩ := (ih _ (length_readText_lt hc)).nodes hothers
      exact reads_of_readText .off _ (hreads.notText fun c => isMark_of_readText) hreads
    | true =>
      have hstep := textStep_off_of_isMark hc
      by_cases hopen : c = '{'
      · subst hopen
        obtain ⟨node, t, others, hnode, hothers, rfl⟩ := yields_readNodes_brace_iff.mp h
        obtain ⟨_, hreads⟩ := (ih s (Nat.lt_succ_self _)).argument hnode
        obtain ⟨_, hreads'⟩ := (ih t (Nat.lt_succ_of_lt hnode.length_lt)).nodes hothers
        exact ⟨_, .argument hstep hreads hreads'⟩
      · by_cases hclose : c = '}'
        · subst hclose
          obtain ⟨rfl, rfl, rfl⟩ := yields_readNodes_close_iff.mp h
          exact ⟨_, .closed hstep⟩
        · obtain ⟨rfl, rfl⟩ : p = true ∧ c = '#' := by
            simpa [isMark, hopen, hclose] using hc
          obtain ⟨others, hothers, rfl⟩ := yields_readNodes_pound_iff.mp h
          obtain ⟨_, hreads⟩ := (ih s (Nat.lt_succ_self _)).nodes hothers
          exact ⟨_, .pound hstep hreads⟩

theorem reads_argument_of_shorter {node : Node} (h : Yields (readArgument total p s) node rest) :
    ∃ places, Reads (.argument p node) s rest places := by
  rw [readArgument] at h
  obtain ⟨head, t, _, hhead, h⟩ := h.of_bind
  have hlt := hhead.length_lt
  rw [yields_readHead_iff] at hhead
  cases head with
  | argument name =>
    obtain ⟨rfl, rfl⟩ := yields_ok_iff.mp h
    exact ⟨_, .value hhead⟩
  | number name =>
    obtain ⟨rfl, rfl⟩ := yields_ok_iff.mp h
    exact ⟨_, .number hhead⟩
  | plural name offset =>
    obtain ⟨branches, t', _, hbranches, h⟩ := h.of_bind
    obtain ⟨places, hreads⟩ := (ih t hlt).pluralBranches hbranches
    split at h
    · next hother =>
      obtain ⟨rfl, rfl⟩ := yields_ok_iff.mp h
      exact ⟨_, .plural hhead hreads hother⟩
    · exact absurd h not_yields_error
  | select name =>
    obtain ⟨branches, t', _, hbranches, h⟩ := h.of_bind
    obtain ⟨places, hreads⟩ := (ih t hlt).selectBranches hbranches
    split at h
    · next hother =>
      obtain ⟨rfl, rfl⟩ := yields_ok_iff.mp h
      exact ⟨_, .select hhead hreads hother⟩
    · exact absurd h not_yields_error

theorem reads_pluralBranches_of_shorter {branches : List (PluralKey × List Node)}
    (h : Yields (readPluralBranches total s) branches rest) :
    ∃ places, Reads (.pluralBranches branches) s rest places := by
  rcases yields_readPluralBranches_iff.mp h with
    ⟨rfl, b, hb, rfl⟩ | ⟨selector, a, key, u, nodes, t, others, ha, hkey, rfl, hnodes, hothers, rfl⟩
  · exact ⟨_, .pluralEnd hb⟩
  · have hu := ha.length_lt u
    have ht : t.length < u.length := Nat.lt_of_succ_lt_succ hnodes.length_lt
    obtain ⟨_, hreads⟩ := (ih u hu).nodes hnodes
    obtain ⟨_, hreads'⟩ := (ih t (Nat.lt_trans ht hu)).pluralBranches hothers
    exact ⟨_, .pluralBranch ha hkey hreads hreads'⟩

theorem reads_selectBranches_of_shorter {branches : List (String × List Node)}
    (h : Yields (readSelectBranches total p s) branches rest) :
    ∃ places, Reads (.selectBranches p branches) s rest places := by
  rcases yields_readSelectBranches_iff.mp h with
    ⟨rfl, b, hb, rfl⟩ | ⟨key, a, u, nodes, t, others, ha, rfl, hnodes, hothers, rfl⟩
  · exact ⟨_, .selectEnd hb⟩
  · have hu := ha.length_lt u
    have ht : t.length < u.length := Nat.lt_of_succ_lt_succ hnodes.length_lt
    obtain ⟨_, hreads⟩ := (ih u hu).nodes hnodes
    obtain ⟨_, hreads'⟩ := (ih t (Nat.lt_trans ht hu)).selectBranches hothers
    exact ⟨_, .selectBranch ha hreads hreads'⟩

omit ih

/-- Every reader is sound, by induction on the length of the text. -/
theorem isSound (total : Nat) (s : List Char) : IsSound total s := by
  induction hs : s.length using Nat.strongRecOn generalizing s with
  | ind k ih =>
    subst hs
    have hshorter : ∀ t : List Char, t.length < s.length → IsSound total t := fun t ht => ih t.length ht t rfl
    exact ⟨reads_nodes_of_shorter hshorter, reads_argument_of_shorter hshorter,
      reads_pluralBranches_of_shorter hshorter, reads_selectBranches_of_shorter hshorter⟩

/-- The reader of nodes reads what the grammar says. -/
theorem yields_readNodes_iff :
    Yields (readNodes total p n s) nodes rest ↔ ∃ places, Reads (.nodes .off p n nodes) s rest places := by
  constructor
  · exact (isSound total s).nodes
  · rintro ⟨places, hreads⟩
    exact (hreads.isRead total).yields

/-- A message is read as the tree of which it is a text. -/
theorem read_eq_ok_iff {message : String} :
    read message = .ok nodes ↔ ∃ places, Reads (.nodes .off false false nodes) message.toList [] places := by
  have hnodes : Yields (readNodes message.toList.length false false message.toList) nodes [] ↔
      ∃ places, Reads (.nodes .off false false nodes) message.toList [] places := yields_readNodes_iff
  rw [← hnodes]
  unfold read
  simp only
  cases hread : readNodes message.toList.length false false message.toList with
  | error e =>
    constructor
    · intro h
      cases h
    · intro h
      exact absurd h not_yields_error
  | ok found =>
    rw [yields_ok_iff]
    constructor
    · intro h
      replace h : (if found.rest.isEmpty then pure found.value else Except.error _) = Except.ok nodes := h
      split at h
      · next hempty => exact ⟨Except.ok.inj h, List.isEmpty_iff.mp hempty⟩
      · cases h
    · rintro ⟨rfl, hempty⟩
      have hif : found.rest.isEmpty = true := List.isEmpty_iff.mpr hempty
      exact if_pos hif

end Phrasebook.Message
