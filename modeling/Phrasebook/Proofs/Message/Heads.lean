import Phrasebook.Proofs.Message.Tokens

/-!
# Heads of arguments and of branches

The readers of what stands before the branches of an argument, and before the text of a branch, read just what the grammar
says: `yields_readHead_iff`, `yields_readPluralKey_iff`, `yields_readSelectKey_iff`.
-/

namespace Phrasebook.Message

open Text Unicode

variable {total : Nat} {s t b rest : List Char} {name : String} {head : Head}

/-! ## Names -/

theorem toList_ne_nil_of_not_isEmpty {token : String} (h : ¬token.isEmpty = true) : token.toList ≠ [] := by
  intro hnil
  exact h (by rw [String.isEmpty_iff, ← String.toList_inj, hnil]; rfl)

theorem IsToken.not_isEmpty {token : String} (h : IsToken token) : ¬token.isEmpty = true := by
  intro hempty
  apply h.1
  rw [String.isEmpty_iff.mp hempty]
  rfl

/-- The reader of names reads what the grammar says. -/
theorem yields_readName_iff : Yields (readName total s) name rest ↔
    IsArgumentName name ∧ Stops isTokenChar rest ∧ ∃ b, Blanks b ∧ s = b ++ (name.toList ++ rest) := by
  constructor
  · intro h
    simp only [readName] at h
    split at h
    · exact absurd h not_yields_error
    · next hempty =>
      split at h
      · exact absurd h not_yields_error
      · next hall =>
        obtain ⟨rfl, rfl⟩ := yields_ok_iff.mp h
        obtain ⟨b, hb, hs, htoken, hstop⟩ := readToken_split s
        refine ⟨⟨⟨toList_ne_nil_of_not_isEmpty hempty, htoken⟩, ?_⟩, hstop, b, hb, hs⟩
        simpa using hall
  · rintro ⟨hname, hstop, b, hb, rfl⟩
    obtain ⟨hvalue, hrest⟩ := readToken_append hb hname.1 hstop
    have hempty : ¬(readToken (b ++ (name.toList ++ rest))).value.isEmpty = true := by
      rw [hvalue]
      exact hname.1.not_isEmpty
    have hall : ¬(!(readToken (b ++ (name.toList ++ rest))).value.toList.all isNameChar) = true := by
      rw [hvalue]
      simpa using hname.2
    simp only [readName, if_neg hempty, if_neg hall]
    exact yields_ok_iff.mpr ⟨hvalue, hrest⟩

/-! ## Types -/

/-- A style goes up to the first closing brace. -/
theorem isStyle_takeWhile (h : s.head? = some ',') : IsStyle (s.takeWhile (· != '}')) := by
  obtain ⟨t, rfl⟩ := List.head?_eq_some_iff.mp h
  refine .inr ⟨by simp, fun hmem => ?_⟩
  have hall := List.all_eq_true.mp List.all_takeWhile _ hmem
  simp at hall

/-- A style begins with a comma, or else the closing brace follows at once. -/
theorem IsStyle.stops {p : Char → Bool} {style : List Char} (h : IsStyle style) (hcomma : p ',' = false)
    (hclose : p '}' = false) : Stops p (style ++ '}' :: rest) := by
  rcases h with rfl | ⟨hhead, -⟩
  · exact stops_cons hclose
  · obtain ⟨t, rfl⟩ := List.head?_eq_some_iff.mp hhead
    exact stops_cons hcomma

/-- What is passed over up to a closing brace is a style. -/
theorem rest_style_iff :
    (if s.head? = some ',' then Read.ofRun (· != '}') s else Read.nothing [] s).rest = '}' :: rest ↔
      ∃ style, IsStyle style ∧ s = style ++ '}' :: rest := by
  split
  · next hcomma =>
    constructor
    · intro h
      have hrest : s.dropWhile (· != '}') = '}' :: rest := h
      exact ⟨_, isStyle_takeWhile hcomma, by rw [← hrest, List.takeWhile_append_dropWhile]⟩
    · rintro ⟨style, hstyle, rfl⟩
      have hclose : '}' ∉ style := by
        rcases hstyle with rfl | ⟨-, hclose⟩
        · cases hcomma
        · exact hclose
      refine dropWhile_append (fun c hc => ?_) (stops_cons rfl)
      simpa using fun h : c = '}' => hclose (h ▸ hc)
  · next hcomma =>
    constructor
    · intro h
      exact ⟨[], .inl rfl, h⟩
    · rintro ⟨style, rfl | ⟨hhead, -⟩, rfl⟩
      · rfl
      · obtain ⟨t, rfl⟩ := List.head?_eq_some_iff.mp hhead
        exact absurd rfl hcomma

theorem yields_readNumberEnd_iff :
    Yields (readNumberEnd total s) () rest ↔ ∃ style, IsStyle style ∧ s = style ++ '}' :: rest := by
  rw [← rest_style_iff]
  constructor
  · intro h
    obtain ⟨_, t, _, hclosed, h⟩ := h.of_bind
    obtain ⟨-, rfl⟩ := yields_ok_iff.mp h
    exact yields_expect_iff.mp hclosed
  · intro h
    exact Yields.bind (yields_expect_iff.mpr h) fun below => yields_ok_iff.mpr ⟨rfl, rfl⟩

theorem ofText?_nil : Number.ofText? [] = none := by decide

/-- A prefix is read where the text begins with it. -/
theorem readPrefix?_append (wanted rest : List Char) (h : s = wanted ++ rest) :
    ∃ read, readPrefix? wanted s = some read ∧ read.rest = rest := by
  unfold readPrefix?
  split
  · next hnone =>
    rw [afterPrefix?_eq_some_iff.mpr h] at hnone
    cases hnone
  · next found hfound =>
    rw [afterPrefix?_eq_some_iff.mpr h] at hfound
    exact ⟨_, rfl, (Option.some.inj hfound).symm⟩

theorem eq_of_readPrefix? {wanted : List Char} {read : Read Unit (s.length + 1)} (h : readPrefix? wanted s = some read) :
    s = wanted ++ read.rest := by
  unfold readPrefix? at h
  split at h
  · cases h
  · next found hfound =>
    obtain rfl := Option.some.inj h
    exact afterPrefix?_eq_some_iff.mp hfound

/-- Without the mark in front, there is no offset. -/
theorem yields_readOffset_zero (hb : Blanks b) (hblank : Stops isBlank rest) (hmark : ¬offsetMark <+: rest) :
    Yields (readOffset total (b ++ rest)) (Number.zero false) rest := by
  have hskip : skipBlank (b ++ rest) = rest := skipBlank_append hb hblank
  simp only [readOffset]
  split
  · exact yields_ok_iff.mpr ⟨rfl, hskip⟩
  · next mark hfound =>
    have hprefix : skipBlank (b ++ rest) = offsetMark ++ mark.rest := eq_of_readPrefix? hfound
    rw [hskip] at hprefix
    exact absurd ⟨mark.rest, hprefix.symm⟩ hmark

/-- Behind the mark, the offset is the number that the next token writes. -/
theorem yields_readOffset_token {b' : List Char} {token : String} {offset : Number} (hb : Blanks b) (hb' : Blanks b')
    (htoken : IsToken token) (hoffset : Number.ofText? token.toList = some offset) (hstop : Stops isTokenChar rest) :
    Yields (readOffset total (b ++ (offsetMark ++ (b' ++ (token.toList ++ rest))))) offset rest := by
  have hskip : skipBlank (b ++ (offsetMark ++ (b' ++ (token.toList ++ rest)))) =
      offsetMark ++ (b' ++ (token.toList ++ rest)) := skipBlank_append hb (stops_cons (by decide))
  obtain ⟨mark, hfound, hrest⟩ := readPrefix?_append offsetMark _ hskip
  have hread := (readToken_iff htoken.1).mpr ⟨htoken, hstop, b', hb', hrest⟩
  simp only [readOffset]
  split
  · next hnone =>
    cases hfound.symm.trans hnone
  · next mark' hfound' =>
    obtain rfl := Option.some.inj (hfound.symm.trans hfound')
    split
    · next hnone =>
      rw [hread.1, hoffset] at hnone
      cases hnone
    · next found hsome =>
      rw [hread.1, hoffset] at hsome
      exact yields_ok_iff.mpr ⟨(Option.some.inj hsome).symm, hread.2⟩

/-- An offset that is read is zero without a mark, or the number behind the mark. -/
theorem offset_of_yields {offset : Number} (h : Yields (readOffset total s) offset rest) :
    (offset = Number.zero false ∧ Stops isBlank rest ∧ ¬offsetMark <+: rest ∧ ∃ b, Blanks b ∧ s = b ++ rest) ∨
      ∃ (b b' : List Char) (token : String), Blanks b ∧ Blanks b' ∧ IsToken token ∧
        Number.ofText? token.toList = some offset ∧ Stops isTokenChar rest ∧
        s = b ++ (offsetMark ++ (b' ++ (token.toList ++ rest))) := by
  obtain ⟨b, hb, hs, hblank⟩ := skipBlank_split s
  simp only [readOffset] at h
  split at h
  · next hnone =>
    obtain ⟨rfl, rfl⟩ := yields_ok_iff.mp h
    refine .inl ⟨rfl, hblank, fun ⟨t, ht⟩ => ?_, b, hb, hs⟩
    obtain ⟨mark, hfound, -⟩ := readPrefix?_append offsetMark t ht.symm
    cases hfound.symm.trans hnone
  · next mark hfound =>
    split at h
    · exact absurd h not_yields_error
    · next offset' hoffset =>
      obtain ⟨rfl, rfl⟩ := yields_ok_iff.mp h
      obtain ⟨b', hb', hmark, htoken, hstop⟩ := readToken_split mark.rest
      have hne : (readToken mark.rest).value.toList ≠ [] := by
        intro hnil
        rw [hnil, ofText?_nil] at hoffset
        cases hoffset
      refine .inr ⟨b, b', _, hb, hb', ⟨hne, htoken⟩, hoffset, hstop, ?_⟩
      rw [Read.rest_andThen, Read.rest_andThen, Read.rest_map, ← hmark]
      have hprefix : skipBlank s = offsetMark ++ mark.rest := eq_of_readPrefix? hfound
      rw [← hprefix]
      exact hs

/-! ## Heads -/

/-- The type of an argument with the white space around it. -/
theorem readToken_kind {kind : String} {b₃ b₄ tail : List Char} (h₃ : Blanks b₃) (hkind : IsToken kind) (h₄ : Blanks b₄)
    (hblank : Stops isBlank tail) (hstop : Stops isTokenChar tail) :
    (readToken (b₃ ++ (kind.toList ++ (b₄ ++ tail)))).value = kind ∧
      skipBlank (readToken (b₃ ++ (kind.toList ++ (b₄ ++ tail)))).rest = tail := by
  have hrest : Stops isTokenChar (b₄ ++ tail) := by
    cases tail with
    | nil =>
      rw [List.append_nil]
      intro c hc
      exact isTokenChar_of_isBlank (h₄ c (List.mem_of_head? hc))
    | cons c tail => exact h₄.stops (fun d => isTokenChar_of_isBlank) hstop.of_cons
  obtain ⟨hvalue, hrest⟩ := readToken_append h₃ hkind hrest
  exact ⟨hvalue, by rw [hrest, skipBlank_append h₄ hblank]⟩

/-- The name, a comma and the type are read in front of what the type needs. -/
theorem yields_readHead_of_readKind {kind : String} {a tail : List Char} (ha : KindText name kind a) (hkind : IsToken kind)
    (hblank : Stops isBlank tail) (hstop : Stops isTokenChar tail)
    (h : ∀ t, (readToken t).value = kind → skipBlank (readToken t).rest = tail →
      Yields (readKind total name t) head rest) : Yields (readHead total (a ++ tail)) head rest := by
  obtain ⟨hname, h₁, h₂, h₃, h₄⟩ := ha
  rename_i b₁ b₂ b₃ b₄
  have hstart := readToken_kind h₃ hkind h₄ hblank hstop
  have htext : b₁ ++ (name.toList ++ (b₂ ++ ',' :: (b₃ ++ (kind.toList ++ b₄)))) ++ tail =
      b₁ ++ (name.toList ++ (b₂ ++ ',' :: (b₃ ++ (kind.toList ++ (b₄ ++ tail))))) := by simp
  rw [htext]
  have hcomma : Stops isTokenChar (b₂ ++ ',' :: (b₃ ++ (kind.toList ++ (b₄ ++ tail)))) :=
    h₂.stops (fun c => isTokenChar_of_isBlank) rfl
  refine Yields.bind (yields_readName_iff.mpr ⟨hname, hcomma, b₁, h₁, rfl⟩) fun below => ?_
  obtain ⟨_, hc⟩ := readVisible?_append ',' (b₃ ++ (kind.toList ++ (b₄ ++ tail))) h₂ (by decide)
  simp only [hc]
  exact Yields.bind (h _ hstart.1 hstart.2) fun below => yields_ok_iff.mpr ⟨rfl, rfl⟩

theorem yields_readKind_number {t style : List Char} (hkind : (readToken t).value = "number")
    (htail : skipBlank (readToken t).rest = style ++ '}' :: rest) (hstyle : IsStyle style) :
    Yields (readKind total name t) (.number name) rest := by
  unfold readKind
  simp only
  split
  · exact Yields.bind (yields_readNumberEnd_iff.mpr ⟨style, hstyle, htail⟩) fun below => yields_ok_iff.mpr ⟨rfl, rfl⟩
  all_goals simp_all

theorem yields_readKind_plural {t u : List Char} {offset : Number} (hkind : (readToken t).value = "plural")
    (htail : skipBlank (readToken t).rest = ',' :: u) (h : Yields (readOffset total u) offset rest) :
    Yields (readKind total name t) (.plural name offset) rest := by
  unfold readKind
  simp only
  split
  · simp_all
  · refine Yields.bind (yields_expect_iff.mpr htail) fun below => ?_
    exact Yields.bind h fun below => yields_ok_iff.mpr ⟨rfl, rfl⟩
  all_goals simp_all

theorem yields_readKind_select {t : List Char} (hkind : (readToken t).value = "select")
    (htail : skipBlank (readToken t).rest = ',' :: rest) :
    Yields (readKind total name t) (.select name) rest := by
  unfold readKind
  simp only
  split
  · simp_all
  · simp_all
  · exact Yields.bind (yields_expect_iff.mpr htail) fun below => yields_ok_iff.mpr ⟨rfl, rfl⟩
  all_goals simp_all

/-- Every head of the grammar is read. -/
theorem yields_readHead (h : ReadsHead head s rest) : Yields (readHead total s) head rest := by
  cases h with
  | argument hname h₁ h₂ =>
    have hstop : Stops isTokenChar (_ ++ '}' :: rest) := h₂.stops (fun c => isTokenChar_of_isBlank) rfl
    refine Yields.bind (yields_readName_iff.mpr ⟨hname, hstop, _, h₁, rfl⟩) fun below => ?_
    obtain ⟨_, hc⟩ := readVisible?_append '}' rest h₂ (by decide)
    simp only [hc]
    exact yields_ok_iff.mpr ⟨rfl, rfl⟩
  | number ha hstyle =>
    exact yields_readHead_of_readKind ha (by decide) (hstyle.stops (by decide) (by decide))
      (hstyle.stops rfl rfl) fun t hkind htail => yields_readKind_number hkind htail hstyle
  | plural ha hb hblank hmark =>
    exact yields_readHead_of_readKind ha (by decide) (stops_cons (by decide)) (stops_cons rfl)
      fun t hkind htail => yields_readKind_plural hkind htail (yields_readOffset_zero hb hblank hmark)
  | offset ha hb hb' htoken hoffset hstop =>
    exact yields_readHead_of_readKind ha (by decide) (stops_cons (by decide)) (stops_cons rfl)
      fun t hkind htail => yields_readKind_plural hkind htail (yields_readOffset_token hb hb' htoken hoffset hstop)
  | select ha =>
    exact yields_readHead_of_readKind ha (by decide) (stops_cons (by decide)) (stops_cons rfl)
      fun t hkind htail => yields_readKind_select hkind htail

/-- The text before what a type needs, from the readers of its parts. -/
theorem kindText_split {b₁ b₂ : List Char} (hname : IsArgumentName name) (h₁ : Blanks b₁) (h₂ : Blanks b₂)
    (t : List Char) : ∃ a, KindText name (readToken t).value a ∧
      b₁ ++ (name.toList ++ (b₂ ++ ',' :: t)) = a ++ skipBlank (readToken t).rest := by
  obtain ⟨b₃, h₃, ht, -⟩ := readToken_split t
  obtain ⟨b₄, h₄, hrest, -⟩ := skipBlank_split (readToken t).rest
  refine ⟨_, .mk hname h₁ h₂ h₃ h₄, ?_⟩
  simp only [List.append_assoc, List.cons_append]
  rw [← hrest, ← ht]

/-- What is read behind a name and a comma is a head, together with these. -/
theorem readsHead_of_readKind {b₁ b₂ : List Char} (hname : IsArgumentName name) (h₁ : Blanks b₁) (h₂ : Blanks b₂)
    (h : Yields (readKind total name t) head rest) :
    ReadsHead head (b₁ ++ (name.toList ++ (b₂ ++ ',' :: t))) rest := by
  obtain ⟨a, ha, htext⟩ := kindText_split hname h₁ h₂ t
  rw [htext]
  unfold readKind at h
  simp only at h
  -- one case for each type, and the two errors
  split at h
  · next hkind =>
    rw [hkind] at ha
    obtain ⟨_, t', _, hend, h⟩ := h.of_bind
    obtain ⟨rfl, rfl⟩ := yields_ok_iff.mp h
    obtain ⟨style, hstyle, htail⟩ := yields_readNumberEnd_iff.mp hend
    rw [show skipBlank (readToken t).rest = _ from htail]
    exact .number ha hstyle
  · next hkind =>
    rw [hkind] at ha
    obtain ⟨_, u, _, hcomma, h⟩ := h.of_bind
    obtain ⟨offset, t', _, hoffset, h⟩ := h.of_bind
    obtain ⟨rfl, rfl⟩ := yields_ok_iff.mp h
    rw [show skipBlank (readToken t).rest = _ from yields_expect_iff.mp hcomma]
    rcases offset_of_yields hoffset with ⟨rfl, hblank, hmark, b, hb, rfl⟩ | ⟨b, b', token, hb, hb', htoken, hof, hstop, rfl⟩
    · exact .plural ha hb hblank hmark
    · exact .offset ha hb hb' htoken hof hstop
  · next hkind =>
    rw [hkind] at ha
    obtain ⟨_, u, _, hcomma, h⟩ := h.of_bind
    obtain ⟨rfl, rfl⟩ := yields_ok_iff.mp h
    rw [show skipBlank (readToken t).rest = _ from yields_expect_iff.mp hcomma]
    exact .select ha
  · exact absurd h not_yields_error
  · exact absurd h not_yields_error

/-- The reader of heads reads what the grammar says. -/
theorem yields_readHead_iff : Yields (readHead total s) head rest ↔ ReadsHead head s rest := by
  constructor
  · intro h
    obtain ⟨name, t, _, hread, h⟩ := h.of_bind
    obtain ⟨hname, -, b₁, h₁, rfl⟩ := yields_readName_iff.mp hread
    split at h
    · exact absurd h not_yields_error
    · next c hc =>
      obtain ⟨b₂, h₂, ht⟩ := readVisible?_split hc
      rw [show t = b₂ ++ c.value :: c.rest from ht]
      split at h
      · next hclose =>
        obtain ⟨hhead, hrest⟩ := yields_ok_iff.mp h
        rw [hclose, ← hhead, show c.rest = rest from hrest]
        exact .argument hname h₁ h₂
      · split at h
        · next hcomma =>
          obtain ⟨head', u, _, hkind, h⟩ := h.of_bind
          obtain ⟨hhead, hrest⟩ := yields_ok_iff.mp h
          rw [hcomma, ← hhead, show rest = u from hrest.symm]
          exact readsHead_of_readKind hname h₁ h₂ hkind
        · exact absurd h not_yields_error
  · exact yields_readHead

/-! ## Keys of branches -/

/-- What opens a branch, behind its selector. -/
theorem yields_brace_iff {α : Type} {key found : α} {reason : String} {u : List Char}
    (token : Read String (u.length + 1)) :
    Yields (do
      let start := skippedBlank () token.rest
      let brace ← expect total '{' reason start.rest
      return token.perhapsThen (start.perhapsThen (brace.map fun _ => key))) found rest ↔
      key = found ∧ ∃ b, Blanks b ∧ token.rest = b ++ '{' :: rest := by
  constructor
  · intro h
    obtain ⟨_, t, _, hbrace, h⟩ := h.of_bind
    obtain ⟨hkey, ht⟩ := yields_ok_iff.mp h
    obtain ⟨b, hb, hrest, -⟩ := skipBlank_split token.rest
    rw [show skipBlank token.rest = _ from yields_expect_iff.mp hbrace, show t = rest from ht] at hrest
    exact ⟨hkey, b, hb, hrest⟩
  · rintro ⟨rfl, b, hb, hrest⟩
    have hskip : skipBlank token.rest = '{' :: rest := by
      rw [hrest]
      exact skipBlank_append hb (stops_cons (by decide))
    exact Yields.bind (yields_expect_iff.mpr hskip) fun below => yields_ok_iff.mpr ⟨rfl, rfl⟩

theorem KeyText.length_lt {selector : String} {a : List Char} (ha : KeyText selector a) (s : List Char) :
    s.length < (a ++ s).length := by
  obtain ⟨-, -, -⟩ := ha
  simp only [List.length_append, List.length_cons]
  omega

/-- A selector and the brace that opens its branch, from the readers of its parts. -/
theorem keyText_iff {selector : String} (hne : selector.toList ≠ []) :
    (∃ a, KeyText selector a ∧ s = a ++ rest) ↔
      (readToken s).value = selector ∧ ∃ b, Blanks b ∧ (readToken s).rest = b ++ '{' :: rest := by
  constructor
  · rintro ⟨_, ⟨hb, hselector, hb'⟩, rfl⟩
    rename_i b b'
    have htext : b ++ (selector.toList ++ (b' ++ ['{'])) ++ rest = b ++ (selector.toList ++ (b' ++ '{' :: rest)) := by simp
    rw [htext]
    have hstop : Stops isTokenChar (b' ++ '{' :: rest) := hb'.stops (fun c => isTokenChar_of_isBlank) rfl
    obtain ⟨hvalue, hrest⟩ := readToken_append hb hselector hstop
    exact ⟨hvalue, b', hb', hrest⟩
  · rintro ⟨rfl, b', hb', hrest⟩
    obtain ⟨b, hb, hs, htoken, -⟩ := readToken_split s
    refine ⟨_, .mk hb ⟨hne, htoken⟩ hb', ?_⟩
    rw [hrest] at hs
    simpa using hs

/-- The empty text is no plural key. -/
theorem toList_ne_nil_of_pluralKey {selector : String} {key : PluralKey} (h : pluralKey selector = .ok key) :
    selector.toList ≠ [] := by
  intro hnil
  rw [show selector = "" from String.toList_inj.mp hnil] at h
  cases h

/-- The reader of plural keys reads what the grammar says. -/
theorem yields_readPluralKey_iff {key : PluralKey} : Yields (readPluralKey total s) key rest ↔
    ∃ selector a, KeyText selector a ∧ pluralKey selector = .ok key ∧ s = a ++ rest := by
  unfold readPluralKey
  simp only
  constructor
  · intro h
    split at h
    · exact absurd h not_yields_error
    · next found hkey =>
      obtain ⟨rfl, hb⟩ := (yields_brace_iff _).mp h
      obtain ⟨a, ha, hs⟩ := (keyText_iff (toList_ne_nil_of_pluralKey hkey)).mpr ⟨rfl, hb⟩
      exact ⟨_, a, ha, hkey, hs⟩
  · rintro ⟨selector, a, ha, hkey, hs⟩
    obtain ⟨hvalue, hb⟩ := (keyText_iff (toList_ne_nil_of_pluralKey hkey)).mp ⟨a, ha, hs⟩
    rw [← hvalue] at hkey
    split
    · next herror =>
      rw [hkey] at herror
      cases herror
    · next found hfound =>
      exact (yields_brace_iff _).mpr ⟨Except.ok.inj (hfound.symm.trans hkey), hb⟩

/-- The reader of select keys reads what the grammar says. -/
theorem yields_readSelectKey_iff {key : String} : Yields (readSelectKey total s) key rest ↔
    ∃ a, KeyText key a ∧ s = a ++ rest := by
  unfold readSelectKey
  simp only
  constructor
  · intro h
    split at h
    · exact absurd h not_yields_error
    · next hempty =>
      obtain ⟨rfl, hb⟩ := (yields_brace_iff _).mp h
      exact (keyText_iff (toList_ne_nil_of_not_isEmpty hempty)).mpr ⟨rfl, hb⟩
  · rintro ⟨a, ha, hs⟩
    have hselector : IsToken key := by
      obtain ⟨-, h, -⟩ := ha
      exact h
    obtain ⟨rfl, hb⟩ := (keyText_iff hselector.1).mp ⟨a, ha, hs⟩
    rw [if_neg hselector.not_isEmpty]
    exact (yields_brace_iff _).mpr ⟨rfl, hb⟩

end Phrasebook.Message
