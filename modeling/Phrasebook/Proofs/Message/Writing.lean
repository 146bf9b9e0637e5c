import Phrasebook.Proofs.Message.Substitution
import Phrasebook.Proofs.Message.Trees
import Phrasebook.Proofs.Number.Numerals

/-!
# Writing messages

A tree is written in the message language with white space of any kind around the tokens of its arguments, and with what
means more than itself in text between apostrophes (`AreWritten`). Every well-formed tree can be written, and however it is
written the message is read as the tree (`read_of_areWritten`). So the well-formed trees are those that messages are read as
(`exists_read_eq_ok_iff`).
-/

namespace Phrasebook.Message

open Text Unicode

variable {p n : Bool} {c : Char} {s t u a b rest : List Char} {name : String} {node : Node} {nodes : List Node}
  {places : List ArgumentPlace}

/-! ## How a tree is written -/

/-- The text with each apostrophe doubled. -/
def doubled : List Char → List Char
  | [] => []
  | c :: rest => if c = '\'' then '\'' :: '\'' :: doubled rest else c :: doubled rest

/-- The text as it is written in a message: each apostrophe doubled, and from the first mark on between apostrophes. -/
def writeText (inPlural : Bool) : List Char → List Char
  | [] => []
  | c :: rest =>
    if isMark inPlural c then '\'' :: (doubled (c :: rest) ++ ['\''])
    else doubled [c] ++ writeText inPlural rest

/-- The token with white space on both sides. -/
def Spaced (token s : List Char) : Prop := ∃ b b', Blanks b ∧ Blanks b' ∧ s = b ++ (token ++ b')

/-- What is written for the offset of a plural: nothing if it is zero, or its mark and a text that names it. White space
keeps the text apart from the selector behind it. -/
def IsOffsetText (offset : Number) (s : List Char) : Prop :=
  offset = Number.zero false ∧ s = [] ∨ ∃ b b' t c, Blanks b ∧ Blanks b' ∧ Number.ofText? t = some offset ∧
    isBlank c = true ∧ s = b ++ (offsetMark ++ (b' ++ (t ++ [c])))

/-- The selector of a branch of a plural: an equals sign and a text that names the number, or the keyword of the category. -/
def IsSelector : PluralKey → List Char → Prop
  | .exact x, s => ∃ t, Number.ofText? t = some x ∧ s = '=' :: t
  | .category c, s => s = c.keyword.toList

mutual

/-- Is the node written so, inside a plural or not? -/
def IsWritten (inPlural : Bool) : Node → List Char → Prop
  | .text t, s => s = writeText inPlural t.toList
  | .argument name, s => ∃ a, Spaced name.toList a ∧ s = '{' :: (a ++ ['}'])
  | .number name, s => ∃ a k style, Spaced name.toList a ∧ Spaced "number".toList k ∧ IsStyle style ∧
    s = '{' :: (a ++ ',' :: (k ++ (style ++ ['}'])))
  | .plural name offset branches, s => ∃ a k o t, Spaced name.toList a ∧ Spaced "plural".toList k ∧
    IsOffsetText offset o ∧ ArePluralBranchesWritten branches t ∧ s = '{' :: (a ++ ',' :: (k ++ ',' :: (o ++ t)))
  | .select name branches, s => ∃ a k t, Spaced name.toList a ∧ Spaced "select".toList k ∧
    AreSelectBranchesWritten inPlural branches t ∧ s = '{' :: (a ++ ',' :: (k ++ ',' :: t))
  | .pound, s => s = ['#']

/-- Are the nodes written so, one after another? -/
def AreWritten (inPlural : Bool) : List Node → List Char → Prop
  | [], s => s = []
  | node :: nodes, s => ∃ a t, IsWritten inPlural node a ∧ AreWritten inPlural nodes t ∧ s = a ++ t

/-- Are the branches of a plural written so, with the brace that closes it? -/
def ArePluralBranchesWritten : List (PluralKey × List Node) → List Char → Prop
  | [], s => ∃ b, Blanks b ∧ s = b ++ ['}']
  | (key, nodes) :: branches, s => ∃ selector a t u, IsSelector key selector ∧ Spaced selector a ∧
    AreWritten true nodes t ∧ ArePluralBranchesWritten branches u ∧ s = a ++ '{' :: (t ++ '}' :: u)

/-- Are the branches of a select written so, with the brace that closes it? -/
def AreSelectBranchesWritten (inPlural : Bool) : List (String × List Node) → List Char → Prop
  | [], s => ∃ b, Blanks b ∧ s = b ++ ['}']
  | (key, nodes) :: branches, s => ∃ a t u, Spaced key.toList a ∧ AreWritten inPlural nodes t ∧
    AreSelectBranchesWritten inPlural branches u ∧ s = a ++ '{' :: (t ++ '}' :: u)

end

/-! ## Every tree can be written -/

/-- No white space is white space too. -/
theorem blanks_nil : Blanks [] := fun _ hc => absurd hc List.not_mem_nil

/-- A token may stand without any white space around it. -/
theorem spaced_self (token : List Char) : Spaced token token := ⟨[], [], blanks_nil, blanks_nil, by simp⟩

/-- An offset that has a numeral can be written. -/
theorem exists_isOffsetText {offset : Number} (h : HasNumeral offset) : ∃ s, IsOffsetText offset s := by
  obtain ⟨t, ht⟩ := h
  exact ⟨_, .inr ⟨[], [], t, ' ', blanks_nil, blanks_nil, ht, by decide, rfl⟩⟩

/-- The key of a plural can be written, as a keyword or behind its sign. -/
theorem exists_isSelector {key : PluralKey} (h : IsPluralKey key) : ∃ s, IsSelector key s := by
  cases key with
  | exact x =>
    obtain ⟨t, ht⟩ := h
    exact ⟨_, t, ht, rfl⟩
  | category c => exact ⟨_, rfl⟩

mutual

/-- Every well-formed node can be written. -/
theorem exists_isWritten (p : Bool) : (node : Node) → IsNode p node → ∃ s, IsWritten p node s
  | .text t, _ => ⟨_, rfl⟩
  | .argument name, _ => ⟨_, _, spaced_self _, rfl⟩
  | .number name, _ => ⟨_, _, _, [], spaced_self _, spaced_self _, .inl rfl, rfl⟩
  | .plural name offset branches, h => by
    rw [IsNode] at h
    obtain ⟨o, ho⟩ := exists_isOffsetText h.2.1
    obtain ⟨t, ht⟩ := exists_arePluralBranchesWritten branches h.2.2.2
    exact ⟨_, _, _, o, t, spaced_self _, spaced_self _, ho, ht, rfl⟩
  | .select name branches, h => by
    rw [IsNode] at h
    obtain ⟨t, ht⟩ := exists_areSelectBranchesWritten p branches h.2.2
    exact ⟨_, _, _, t, spaced_self _, spaced_self _, ht, rfl⟩
  | .pound, _ => ⟨_, rfl⟩

/-- So can a run of nodes, one by one. -/
theorem exists_areWritten (p : Bool) : (nodes : List Node) → AreNodes p nodes → ∃ s, AreWritten p nodes s
  | [], _ => ⟨[], rfl⟩
  | node :: nodes, h => by
    rw [AreNodes] at h
    obtain ⟨a, ha⟩ := exists_isWritten p node h.1
    obtain ⟨t, ht⟩ := exists_areWritten p nodes h.2.2
    exact ⟨_, a, t, ha, ht, rfl⟩

/-- So can the branches of a plural, each behind its key. -/
theorem exists_arePluralBranchesWritten : (branches : List (PluralKey × List Node)) → ArePluralBranches branches →
    ∃ s, ArePluralBranchesWritten branches s
  | [], _ => ⟨_, [], blanks_nil, rfl⟩
  | (key, nodes) :: branches, h => by
    rw [ArePluralBranches] at h
    obtain ⟨selector, hselector⟩ := exists_isSelector h.1
    obtain ⟨t, ht⟩ := exists_areWritten true nodes h.2.1
    obtain ⟨u, hu⟩ := exists_arePluralBranchesWritten branches h.2.2
    exact ⟨_, selector, _, t, u, hselector, spaced_self _, ht, hu, rfl⟩

/-- So can the branches of a choice, each behind its key. -/
theorem exists_areSelectBranchesWritten (p : Bool) : (branches : List (String × List Node)) →
    AreSelectBranches p branches → ∃ s, AreSelectBranchesWritten p branches s
  | [], _ => ⟨_, [], blanks_nil, rfl⟩
  | (key, nodes) :: branches, h => by
    rw [AreSelectBranches] at h
    obtain ⟨t, ht⟩ := exists_areWritten p nodes h.2.1
    obtain ⟨u, hu⟩ := exists_areSelectBranchesWritten p branches h.2.2
    exact ⟨_, _, t, u, spaced_self _, ht, hu, rfl⟩

end

/-! ## Tokens -/

/-- What may stand in the name of an argument may stand in a token. -/
theorem isTokenChar_of_isIdentifierChar (h : isNameChar c = true) : isTokenChar c = true := by
  have hblank : isBlank c = false := by
    cases hc : isBlank c with
    | false => rfl
    | true =>
      have hspace : c ≠ '_' := by
        rintro rfl
        cases hc
      simp [isNameChar, isAlphanumeric_of_isBlank hc, hspace] at h
  have hne : ∀ d : Char, isNameChar d = false → c ≠ d := by
    rintro d hd rfl
    rw [h] at hd
    cases hd
  simp [isTokenChar, hblank, hne '{' (by decide), hne '}' (by decide), hne ',' (by decide)]

/-- An identifier can be the name of an argument. -/
theorem IsIdentifier.isArgumentName (h : IsIdentifier name) : IsArgumentName name :=
  ⟨⟨mt String.toList_eq_nil_iff.mp h.1, fun c hc => isTokenChar_of_isIdentifierChar (h.2 c hc)⟩, h.2⟩

/-- What occurs in numerals occurs in tokens. -/
theorem isTokenChar_of_isNumeralChar (h : Number.isNumeralChar c = true) : isTokenChar c = true := by
  simp only [Number.isNumeralChar, Bool.or_eq_true, beq_iff_eq] at h
  rcases h with ((h | rfl) | rfl) | rfl
  · exact isTokenChar_of_isNameChar (by simp [Template.isNameChar, h])
  · decide
  · decide
  · decide

/-- A text that names a number is a token. -/
theorem isToken_of_ofText? {x : Number} (h : Number.ofText? t = some x) : IsToken (String.ofList t) := by
  rw [IsToken, String.toList_ofList]
  refine ⟨?_, fun c hc => isTokenChar_of_isNumeralChar (Number.isNumeralChar_of_ofText? h c hc)⟩
  rintro rfl
  rw [ofText?_nil] at h
  cases h

/-- A selector is a token that names its key. -/
theorem pluralKey_of_isSelector {key : PluralKey} (h : IsSelector key s) :
    pluralKey (String.ofList s) = .ok key ∧ IsToken (String.ofList s) := by
  cases key with
  | exact x =>
    obtain ⟨t, ht, rfl⟩ := h
    refine ⟨by simp [pluralKey, ht], ?_⟩
    rw [IsToken, String.toList_ofList]
    refine ⟨List.cons_ne_nil _ _, fun c hc => ?_⟩
    rcases List.mem_cons.mp hc with rfl | hc
    · decide
    · exact isTokenChar_of_isNumeralChar (Number.isNumeralChar_of_ofText? ht c hc)
  | category c =>
    obtain rfl := h
    rw [String.ofList_toList]
    cases c <;> exact ⟨by decide, by decide⟩

/-- A name and a type between white space, with a comma between them. -/
theorem kindText_of_spaced {kind : String} (hname : IsIdentifier name) (ha : Spaced name.toList a)
    (hb : Spaced kind.toList b) : KindText name kind (a ++ ',' :: b) := by
  obtain ⟨b₁, b₂, h₁, h₂, rfl⟩ := ha
  obtain ⟨b₃, b₄, h₃, h₄, rfl⟩ := hb
  have htext : b₁ ++ (name.toList ++ b₂) ++ ',' :: (b₃ ++ (kind.toList ++ b₄)) =
      b₁ ++ (name.toList ++ (b₂ ++ ',' :: (b₃ ++ (kind.toList ++ b₄)))) := by simp
  rw [htext]
  exact .mk hname.isArgumentName h₁ h₂ h₃ h₄

/-- A selector between white space and the brace that opens its branch. -/
theorem keyText_of_spaced {selector : String} (hselector : IsToken selector) (ha : Spaced selector.toList a) :
    KeyText selector (a ++ ['{']) := by
  obtain ⟨b, b', hb, hb', rfl⟩ := ha
  have htext : b ++ (selector.toList ++ b') ++ ['{'] = b ++ (selector.toList ++ (b' ++ ['{'])) := by simp
  rw [htext]
  exact .mk hb hselector hb'

/-! ## Texts -/

/-- Between apostrophes, the text goes up to the apostrophe that stands alone. -/
theorem readText_doubled (t : List Char) (hs : ∀ c, s.head? = some c → isMark p c = true) :
    readText p .on (doubled t ++ '\'' :: s) = (t, s) := by
  induction t with
  | nil =>
    cases s with
    | nil => rfl
    | cons c s =>
      have hmark := hs c rfl
      have hc : c ≠ '\'' := by
        rintro rfl
        cases p <;> cases hmark
      simp [doubled, readText, hc, hmark]
  | cons c t ih =>
    by_cases hc : c = '\''
    · simp [doubled, readText, consRead, hc, ih]
    · simp [doubled, readText, consRead, hc, ih]

/-- A written text is read up to the mark behind it. -/
theorem readText_writeText (t : List Char) (hs : ∀ c, s.head? = some c → isMark p c = true) :
    readText p .off (writeText p t ++ s) = (t, s) := by
  induction t with
  | nil =>
    cases s with
    | nil => rfl
    | cons c s => simp [writeText, readText, hs c rfl]
  | cons c t ih =>
    have hquote : isMark p '\'' = false := by cases p <;> rfl
    by_cases hmark : isMark p c = true
    · have hc : c ≠ '\'' := by
        rintro rfl
        rw [hquote] at hmark
        cases hmark
      simp [writeText, doubled, readText, consRead, hquote, hmark, hc, readText_doubled t hs]
    · by_cases hc : c = '\''
      · simp [writeText, doubled, readText, consRead, hquote, hc, ih]
      · simp [writeText, doubled, readText, consRead, hmark, hc, ih]

/-! ## Branches -/

/-- A category is only read from its own keyword. -/
theorem keyword_of_ofKeyword? {keyword : String} {category : PluralCategory}
    (h : PluralCategory.ofKeyword? keyword = some category) : category.keyword = keyword := by
  unfold PluralCategory.ofKeyword? at h
  split at h
  all_goals cases h
  all_goals rfl

/-- What does not begin with its first letter does not begin like an offset. -/
theorem not_offsetMark_prefix_cons (hc : c ≠ 'o') (s : List Char) : ¬offsetMark <+: c :: s := by
  rintro ⟨t, ht⟩
  exact hc (List.cons.inj ht).1.symm

/-- A selector does not begin like an offset. -/
theorem not_offsetMark_prefix {selector : String} {key : PluralKey} (h : pluralKey selector = .ok key) (s : List Char) :
    ¬offsetMark <+: selector.toList ++ s := by
  unfold pluralKey at h
  split at h
  · next exact hselector =>
    rw [hselector]
    exact not_offsetMark_prefix_cons (by decide) _
  · split at h
    · next category hkeyword =>
      rw [← keyword_of_ofKeyword? hkeyword]
      have hmark : offsetMark = ['o', 'f', 'f', 's', 'e', 't', ':'] := by decide
      rintro ⟨t, ht⟩
      rw [hmark] at ht
      cases category <;> cases ht
    · cases h

/-- The branches of a plural may be read from their first visible character on, and there is no offset there. -/
theorem Reads.pluralBranches_visible {branches : List (PluralKey × List Node)}
    (h : Reads (.pluralBranches branches) s rest places) : ∃ b t, Blanks b ∧ s = b ++ t ∧ Stops isBlank t ∧
      ¬offsetMark <+: t ∧ Reads (.pluralBranches branches) t rest places := by
  cases h with
  | @pluralEnd b _ hb =>
    exact ⟨b, '}' :: rest, hb, rfl, stops_cons (by decide), not_offsetMark_prefix_cons (by decide) _,
      .pluralEnd (b := []) blanks_nil⟩
  | @pluralBranch selector _ _ u _ _ _ _ _ _ ha hkey hnodes hbranches =>
    obtain ⟨hb, hselector, hb'⟩ := ha
    rename_i b b'
    refine ⟨b, selector.toList ++ (b' ++ '{' :: u), hb, by simp, hselector.stops, not_offsetMark_prefix hkey _, ?_⟩
    have hread := Reads.pluralBranch (.mk blanks_nil hselector hb') hkey hnodes hbranches
    simpa using hread

/-- White space may stand before the branches of a plural. -/
theorem Reads.pluralBranches_cons {branches : List (PluralKey × List Node)} (hc : isBlank c = true)
    (h : Reads (.pluralBranches branches) s rest places) : Reads (.pluralBranches branches) (c :: s) rest places := by
  have hblanks : ∀ {b}, Blanks b → Blanks (c :: b) := fun hb d hd => by
    rcases List.mem_cons.mp hd with rfl | hd
    · exact hc
    · exact hb d hd
  cases h with
  | pluralEnd hb => exact .pluralEnd (hblanks hb)
  | pluralBranch ha hkey hnodes hbranches =>
    obtain ⟨hb, hselector, hb'⟩ := ha
    exact .pluralBranch (.mk (hblanks hb) hselector hb') hkey hnodes hbranches

/-- The head of a plural is read with its offset up to the branches. -/
theorem readsHead_plural {offset : Number} {branches : List (PluralKey × List Node)} {o : List Char}
    (hname : IsIdentifier name) (ha : Spaced name.toList a) (hb : Spaced "plural".toList b) (ho : IsOffsetText offset o)
    (h : Reads (.pluralBranches branches) t rest places) :
    ∃ t', ReadsHead (.plural name offset) (a ++ ',' :: (b ++ ',' :: (o ++ t))) t' ∧
      Reads (.pluralBranches branches) t' rest places := by
  have hkind := kindText_of_spaced hname ha hb
  rcases ho with ⟨rfl, rfl⟩ | ⟨b₁, b₂, token, c, h₁, h₂, htoken, hc, rfl⟩
  · obtain ⟨b', t', hb', rfl, hstops, hmark, hreads⟩ := h.pluralBranches_visible
    have hhead : ReadsHead (.plural name (Number.zero false)) (a ++ ',' :: b ++ ',' :: (b' ++ t')) t' :=
      .plural hkind hb' hstops hmark
    exact ⟨t', by simpa using hhead, hreads⟩
  · have hstops : Stops isTokenChar (c :: t) := stops_cons (isTokenChar_of_isBlank hc)
    have hoffset : Number.ofText? (String.ofList token).toList = some offset := by rwa [String.toList_ofList]
    have hhead : ReadsHead (.plural name offset)
        (a ++ ',' :: b ++ ',' :: (b₁ ++ (offsetMark ++ (b₂ ++ ((String.ofList token).toList ++ c :: t))))) (c :: t) :=
      .offset hkind h₁ h₂ (isToken_of_ofText? htoken) hoffset hstops
    exact ⟨c :: t, by simpa using hhead, h.pluralBranches_cons hc⟩

/-! ## What is written is read -/

/-- What may stand behind nodes: the end of the message, or in a branch the brace that closes it. -/
def Ends (nested : Bool) (rest : List Char) : Prop := rest = [] ∨ nested = true ∧ rest.head? = some '}'

/-- Written nodes that do not begin with text begin with a mark. -/
theorem isMark_of_areWritten (hnodes : AreNodes p nodes) (hnot : NotText nodes) (hs : AreWritten p nodes s)
    (hrest : Ends n rest) (hc : (s ++ rest).head? = some c) : isMark p c = true := by
  cases nodes with
  | nil =>
    rw [AreWritten] at hs
    subst hs
    rcases hrest with rfl | ⟨-, hclose⟩
    · cases hc
    · rw [List.nil_append, hclose] at hc
      obtain rfl := Option.some.inj hc
      rfl
  | cons node nodes =>
    rw [AreNodes] at hnodes
    rw [AreWritten] at hs
    obtain ⟨a, t, ha, -, rfl⟩ := hs
    cases node with
    | text text => exact absurd hnot id
    | argument name =>
      rw [IsWritten] at ha
      obtain ⟨_, _, rfl⟩ := ha
      obtain rfl := Option.some.inj hc
      rfl
    | number name =>
      rw [IsWritten] at ha
      obtain ⟨_, _, _, _, _, _, rfl⟩ := ha
      obtain rfl := Option.some.inj hc
      rfl
    | plural name offset branches =>
      rw [IsWritten] at ha
      obtain ⟨_, _, _, _, _, _, _, _, rfl⟩ := ha
      obtain rfl := Option.some.inj hc
      rfl
    | select name branches =>
      rw [IsWritten] at ha
      obtain ⟨_, _, _, _, _, _, rfl⟩ := ha
      obtain rfl := Option.some.inj hc
      rfl
    | pound =>
      have hp : p = true := hnodes.1
      rw [IsWritten] at ha
      subst hp ha
      obtain rfl := Option.some.inj hc
      rfl

mutual

/-- A node that is written in front of what is read as nodes is read in front of them. -/
theorem reads_cons_of_isWritten : (node : Node) → {p n : Bool} → {nodes : List Node} → {s t rest : List Char} →
    {places : List ArgumentPlace} → IsNode p node → IsWritten p node s → NotText [node] ∨ NotText nodes →
    (NotText nodes → ∀ c, t.head? = some c → isMark p c = true) → Reads (.nodes .off p n nodes) t rest places →
    ∃ places, Reads (.nodes .off p n (node :: nodes)) (s ++ t) rest places
  | .text text, p, n, nodes, s, t, rest, places, hnode, hs, hnot, hmark, h => by
    rw [IsNode] at hnode
    rw [IsWritten] at hs
    subst hs
    have hnot : NotText nodes := hnot.resolve_left id
    have htext := readText_writeText text.toList (hmark hnot)
    have hread : Reads (.nodes .off p n nodes) (readText p .off (writeText p text.toList ++ t)).2 rest places := by
      rw [htext]
      exact h
    obtain ⟨places, hreads⟩ := reads_of_readText .off _ hnot hread
    have hne : text.toList.isEmpty = false := by
      rw [List.isEmpty_eq_false_iff]
      exact mt String.toList_eq_nil_iff.mp hnode
    rw [htext, consText, hne, String.ofList_toList] at hreads
    exact ⟨places, hreads⟩
  | .argument name, p, n, nodes, s, t, rest, places, hnode, hs, hnot, hmark, h => by
    rw [IsNode] at hnode
    rw [IsWritten] at hs
    obtain ⟨a, ⟨b, b', hb, hb', rfl⟩, rfl⟩ := hs
    have hhead : ReadsHead (.argument name) (b ++ (name.toList ++ (b' ++ '}' :: t))) t :=
      .argument hnode.isArgumentName hb hb'
    have hreads := Reads.argument (q := .off) (p := p) (n := n) rfl (.value hhead) h
    exact ⟨_, by simpa using hreads⟩
  | .number name, p, n, nodes, s, t, rest, places, hnode, hs, hnot, hmark, h => by
    rw [IsNode] at hnode
    rw [IsWritten] at hs
    obtain ⟨a, k, style, ha, hk, hstyle, rfl⟩ := hs
    have hhead : ReadsHead (.number name) (a ++ ',' :: k ++ (style ++ '}' :: t)) t :=
      .number (kindText_of_spaced hnode ha hk) hstyle
    have hreads := Reads.argument (q := .off) (p := p) (n := n) rfl (.number hhead) h
    exact ⟨_, by simpa using hreads⟩
  | .plural name offset branches, p, n, nodes, s, t, rest, places, hnode, hs, hnot, hmark, h => by
    rw [IsNode] at hnode
    rw [IsWritten] at hs
    obtain ⟨hname, -, hother, hbranches⟩ := hnode
    obtain ⟨a, k, o, u, ha, hk, ho, hu, rfl⟩ := hs
    obtain ⟨_, hread⟩ := reads_of_arePluralBranchesWritten branches t hbranches hu
    obtain ⟨t', hhead, hread'⟩ := readsHead_plural hname ha hk ho hread
    have hreads := Reads.argument (q := .off) (p := p) (n := n) rfl (.plural hhead hread' hother) h
    exact ⟨_, by simpa using hreads⟩
  | .select name branches, p, n, nodes, s, t, rest, places, hnode, hs, hnot, hmark, h => by
    rw [IsNode] at hnode
    rw [IsWritten] at hs
    obtain ⟨hname, hother, hbranches⟩ := hnode
    obtain ⟨a, k, u, ha, hk, hu, rfl⟩ := hs
    obtain ⟨_, hread⟩ := reads_of_areSelectBranchesWritten branches t hbranches hu
    have hhead : ReadsHead (.select name) (a ++ ',' :: k ++ ',' :: (u ++ t)) (u ++ t) :=
      .select (kindText_of_spaced hname ha hk)
    have hreads := Reads.argument (q := .off) (p := p) (n := n) rfl (.select hhead hread hother) h
    exact ⟨_, by simpa using hreads⟩
  | .pound, p, n, nodes, s, t, rest, places, hnode, hs, hnot, hmark, h => by
    rw [IsNode] at hnode
    rw [IsWritten] at hs
    subst hnode hs
    exact ⟨places, .pound rfl h⟩

/-- Nodes are read from every way of writing them, up to where they end. -/
theorem reads_of_areWritten : (nodes : List Node) → {p n : Bool} → {s rest : List Char} → AreNodes p nodes →
    AreWritten p nodes s → Ends n rest → ∃ places, Reads (.nodes .off p n nodes) (s ++ rest) rest places
  | [], p, n, s, rest, hnodes, hs, hrest => by
    rw [AreWritten] at hs
    subst hs
    rcases hrest with rfl | ⟨rfl, hclose⟩
    · exact ⟨[], .done⟩
    · obtain ⟨t, rfl⟩ := List.head?_eq_some_iff.mp hclose
      exact ⟨[], .closed rfl⟩
  | node :: nodes, p, n, s, rest, hnodes, hs, hrest => by
    rw [AreNodes] at hnodes
    rw [AreWritten] at hs
    obtain ⟨hnode, hnot, hnodes⟩ := hnodes
    obtain ⟨a, t, ha, ht, rfl⟩ := hs
    obtain ⟨places, hread⟩ := reads_of_areWritten nodes hnodes ht hrest
    rw [List.append_assoc]
    exact reads_cons_of_isWritten node hnode ha hnot (fun hnot c => isMark_of_areWritten hnodes hnot ht hrest) hread

/-- The branches of a plural are read from every way of writing them. -/
theorem reads_of_arePluralBranchesWritten : (branches : List (PluralKey × List Node)) → {s : List Char} →
    (rest : List Char) → ArePluralBranches branches → ArePluralBranchesWritten branches s →
    ∃ places, Reads (.pluralBranches branches) (s ++ rest) rest places
  | [], s, rest, hbranches, hs => by
    rw [ArePluralBranchesWritten] at hs
    obtain ⟨b, hb, rfl⟩ := hs
    rw [List.append_assoc]
    exact ⟨[], .pluralEnd hb⟩
  | (key, nodes) :: branches, s, rest, hbranches, hs => by
    rw [ArePluralBranches] at hbranches
    rw [ArePluralBranchesWritten] at hs
    obtain ⟨selector, a, t, u, hselector, ha, ht, hu, rfl⟩ := hs
    obtain ⟨hkey, htoken⟩ := pluralKey_of_isSelector hselector
    have hend : Ends true ('}' :: (u ++ rest)) := .inr ⟨rfl, rfl⟩
    obtain ⟨_, hread⟩ := reads_of_areWritten nodes hbranches.2.1 ht hend
    obtain ⟨_, hreads⟩ := reads_of_arePluralBranchesWritten branches rest hbranches.2.2 hu
    have htext : KeyText (String.ofList selector) (a ++ ['{']) :=
      keyText_of_spaced htoken (by rwa [String.toList_ofList])
    exact ⟨_, by simpa using Reads.pluralBranch htext hkey hread hreads⟩

/-- The branches of a choice are read from every way of writing them. -/
theorem reads_of_areSelectBranchesWritten : (branches : List (String × List Node)) → {p : Bool} → {s : List Char} →
    (rest : List Char) → AreSelectBranches p branches → AreSelectBranchesWritten p branches s →
    ∃ places, Reads (.selectBranches p branches) (s ++ rest) rest places
  | [], p, s, rest, hbranches, hs => by
    rw [AreSelectBranchesWritten] at hs
    obtain ⟨b, hb, rfl⟩ := hs
    rw [List.append_assoc]
    exact ⟨[], .selectEnd hb⟩
  | (key, nodes) :: branches, p, s, rest, hbranches, hs => by
    rw [AreSelectBranches] at hbranches
    rw [AreSelectBranchesWritten] at hs
    obtain ⟨a, t, u, ha, ht, hu, rfl⟩ := hs
    have hend : Ends true ('}' :: (u ++ rest)) := .inr ⟨rfl, rfl⟩
    obtain ⟨_, hread⟩ := reads_of_areWritten nodes hbranches.2.1 ht hend
    obtain ⟨_, hreads⟩ := reads_of_areSelectBranchesWritten branches rest hbranches.2.2 hu
    exact ⟨_, by simpa using Reads.selectBranch (keyText_of_spaced hbranches.1 ha) hread hreads⟩

end

/-- A tree can be read from some message exactly if it is well formed. -/
theorem exists_read_eq_ok_iff : (∃ message, read message = .ok nodes) ↔ AreNodes false nodes := by
  constructor
  · rintro ⟨message, hread⟩
    exact areNodes_of_read hread
  · intro hnodes
    obtain ⟨s, hs⟩ := exists_areWritten false nodes hnodes
    obtain ⟨places, hreads⟩ := reads_of_areWritten (n := false) nodes hnodes hs (.inl rfl)
    refine ⟨String.ofList s, read_eq_ok_iff.mpr ⟨places, ?_⟩⟩
    rwa [List.append_nil, ← String.toList_ofList (l := s)] at hreads

/-- A well-formed tree can be written, and however it is written it is what the message is read as. -/
theorem read_of_areWritten (h : AreNodes false nodes) :
    (∃ message : String, AreWritten false nodes message.toList) ∧
      ∀ message : String, AreWritten false nodes message.toList → read message = .ok nodes := by
  constructor
  · obtain ⟨s, hs⟩ := exists_areWritten false nodes h
    refine ⟨String.ofList s, ?_⟩
    rwa [String.toList_ofList]
  · intro message hs
    obtain ⟨places, hreads⟩ := reads_of_areWritten (n := false) nodes h hs (.inl rfl)
    rw [List.append_nil] at hreads
    exact read_eq_ok_iff.mpr ⟨places, hreads⟩

namespace WritingWitness

/-- The number 1, as offset and as key. -/
def one : Number := .finite false 4503599627370496 (-52)

/-- The branches of a choice, one of them empty. -/
def guests : List (String × List Node) := [("a-b", [.pound, .text "\x7d'"]), ("other", [])]

/-- The branches of a plural, for one number and for all others. -/
def counts : List (PluralKey × List Node) :=
  [(.exact one, [.text "#", .pound]), (.category .other, [.select "g" guests])]

/-- Texts to be quoted, and a select inside a plural with its number sign. -/
def invitation : List Node := [.text "it's \x7b", .plural "n" one counts]

/-- The number 1 is written as a digit. -/
theorem hasNumeral_one : HasNumeral one := ⟨['1'], by decide⟩

/-- The tree of the invitation is well formed. -/
theorem areNodes_invitation : AreNodes false invitation := by
  have hguests : AreSelectBranches true guests :=
    ⟨by decide, ⟨rfl, .inl trivial, (by decide : "\x7d'" ≠ ""), .inr trivial, trivial⟩, by decide, trivial, trivial⟩
  have hcounts : ArePluralBranches counts :=
    ⟨hasNumeral_one, ⟨(by decide : "#" ≠ ""), .inr trivial, rfl, .inl trivial, trivial⟩, trivial,
      ⟨⟨by decide, by decide, hguests⟩, .inl trivial, trivial⟩, trivial⟩
  exact ⟨(by decide : "it's \x7b" ≠ ""), .inr trivial, ⟨by decide, hasNumeral_one, by decide, hcounts⟩, .inl trivial,
    trivial⟩

/-- The tree with an offset, and with white space at some of the places for it. -/
def invitationText : String :=
  "it''s '\x7b'\x7b n , plural, offset:1 =1\x7b'#'#\x7dother \x7b\x7bg,select,a-b\x7b#'\x7d'''\x7dother\x7b\x7d\x7d\x7d \x7d"

/-- The text of the invitation is a way of writing its tree. -/
theorem areWritten_invitation : AreWritten false invitation invitationText.toList := by
  have hblank : Blanks [' '] := by decide
  have hfirst : AreWritten true [.text "#", .pound] "'#'#".toList :=
    ⟨"'#'".toList, ['#'], (by decide : _ = writeText true "#".toList), ⟨['#'], [], rfl, rfl, rfl⟩, by decide⟩
  have hguest : AreWritten true [.pound, .text "\x7d'"] "#'\x7d'''".toList :=
    ⟨['#'], "'\x7d'''".toList, rfl, ⟨"'\x7d'''".toList, [], (by decide : _ = writeText true "\x7d'".toList), rfl,
      by decide⟩, by decide⟩
  have hguests : AreSelectBranchesWritten true guests "a-b\x7b#'\x7d'''\x7dother\x7b\x7d\x7d".toList :=
    ⟨_, _, "other\x7b\x7d\x7d".toList, spaced_self _, hguest, ⟨_, _, ['}'], spaced_self _, rfl, ⟨[], blanks_nil, rfl⟩,
      by decide⟩, by decide⟩
  have hchoice : AreWritten true [.select "g" guests] "\x7bg,select,a-b\x7b#'\x7d'''\x7dother\x7b\x7d\x7d".toList :=
    ⟨_, [], ⟨_, _, _, spaced_self _, spaced_self _, hguests, rfl⟩, rfl, by decide⟩
  have hcounts : ArePluralBranchesWritten counts
      "=1\x7b'#'#\x7dother \x7b\x7bg,select,a-b\x7b#'\x7d'''\x7dother\x7b\x7d\x7d\x7d \x7d".toList := by
    refine ⟨"=1".toList, _, _, "other \x7b\x7bg,select,a-b\x7b#'\x7d'''\x7dother\x7b\x7d\x7d\x7d \x7d".toList,
      ⟨['1'], by decide, by decide⟩, spaced_self _, hfirst, ?_, by decide⟩
    exact ⟨_, _, _, [' ', '}'], rfl, ⟨[], [' '], blanks_nil, hblank, rfl⟩, hchoice, ⟨[' '], hblank, rfl⟩, by decide⟩
  have hoffset : IsOffsetText one " offset:1 ".toList :=
    .inr ⟨[' '], [], ['1'], ' ', hblank, blanks_nil, by decide, by decide, by decide⟩
  have hplural : ∃ s, IsWritten false (.plural "n" one counts) s ∧ invitationText.toList = "it''s '\x7b'".toList ++ s :=
    ⟨_, ⟨_, _, _, _, ⟨[' '], [' '], hblank, hblank, rfl⟩, ⟨[' '], [], hblank, blanks_nil, rfl⟩, hoffset, hcounts, rfl⟩,
      by decide⟩
  obtain ⟨s, hs, htext⟩ := hplural
  exact ⟨_, s, (by decide : "it''s '\x7b'".toList = writeText false "it's \x7b".toList),
    ⟨s, [], hs, rfl, (List.append_nil s).symm⟩, htext⟩

end WritingWitness

open WritingWitness in
theorem read_of_areWritten_invitation : AreNodes false invitation ∧ AreWritten false invitation invitationText.toList ∧
    read invitationText = .ok invitation :=
  ⟨areNodes_invitation, areWritten_invitation, (read_of_areWritten areNodes_invitation).2 _ areWritten_invitation⟩

end Phrasebook.Message
