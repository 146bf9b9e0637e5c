import Phrasebook.Proofs.Message.Places
import Phrasebook.Proofs.Message.PlainText
import Phrasebook.Proofs.Message.Rendering
import Phrasebook.Proofs.Template.Holes

/-!
# Values put into a message before it is read

A value may be put into the text of a message instead of the argument in braces, if this is where an argument is read and if
what surrounds the place does not make anything else of the value (`ArgumentPlace.Admits`). A message in which all values are put
at such places is read as a tree that is rendered alike (`Reads.isFilled`).
-/

namespace Phrasebook.Message

open Text Template Unicode

variable {locale : String} {values : Variables} {p n : Bool} {q : Quoting} {c : Char} {a s t u rest : List Char}
  {part : Part} {node : Node} {nodes : List Node} {places : List ArgumentPlace}

/-! ## Names -/

/-- The characters of a name are among the visible ones of ASCII. -/
theorem toNat_of_isNameChar (h : Template.isNameChar c = true) : 48 ≤ c.toNat ∧ c.toNat ≤ 122 := by
  unfold Template.isNameChar at h
  delta Char.isAlphanum Char.isAlpha Char.isUpper Char.isLower Char.isDigit at h
  simp only [Bool.or_eq_true, Bool.and_eq_true, decide_eq_true_eq, beq_iff_eq, UInt32.le_iff_toNat_le, ge_iff_le] at h
  have hval : c.toNat = c.val.toNat := rfl
  rcases h with ((h | h) | h) | rfl
  · simp at h; omega
  · simp at h; omega
  · simp at h; omega
  · decide

/-- Only the space and control characters are white space in ASCII. -/
theorem isBlank_of_lt (h : 32 < c.toNat) (h' : c.toNat < 0x85) : isBlank c = false := by
  have hspace : c ≠ ' ' := by
    rintro rfl
    exact absurd h (by decide)
  simp [isBlank, hspace, blankRanges, Ranges.has, h']
  omega

theorem isTokenChar_of_isNameChar (h : Template.isNameChar c = true) : isTokenChar c = true := by
  obtain ⟨hge, hle⟩ := toNat_of_isNameChar h
  have hblank : isBlank c = false := isBlank_of_lt (by omega) (by omega)
  have hne : ∀ d : Char, (d.toNat < 48 ∨ 122 < d.toNat) → c ≠ d := by
    rintro d hd rfl
    omega
  simp [isTokenChar, hblank, hne '{' (by decide), hne '}' (by decide), hne ',' (by decide)]

theorem isNameChar_of_isNameChar (h : Template.isNameChar c = true) : isNameChar c = true := by
  simp only [Template.isNameChar, Char.isAlphanum, Bool.or_eq_true] at h
  simp only [isNameChar, isAlphanumeric, isAlphabetic, isNumeric, Bool.or_eq_true]
  tauto

/-- A name of a template is the name of an argument. -/
theorem isArgumentName_of_isName {name : String} (h : IsName name) : IsArgumentName name :=
  ⟨⟨h.1, fun c hc => isTokenChar_of_isNameChar (h.2 c hc)⟩, fun c hc => isNameChar_of_isNameChar (h.2 c hc)⟩

/-! ## Places for values -/

/-- The value may stand at the place with `next` behind it: in a plural it has no number sign, and where an apostrophe ends
a quote in front of it, an empty value does not bring this together with another apostrophe. -/
structure ArgumentPlace.Admits (place : ArgumentPlace) (value next : List Char) : Prop where
  no_pound : place.inPlural = true → '#' ∉ value
  apart : place.quoting = .maybeOff → value = [] → next.head? ≠ some '\''

/-- Every value that is put into the front of `s` before `rest` takes the place of an argument that admits it. -/
def Covers (values : Variables) (places : List ArgumentPlace) (s rest : List Char) : Prop :=
  ∀ name value after, bracedName name ++ after <:+ s → rest.length < (bracedName name ++ after).length → IsName name →
    values.get? name = some value → ∃ place ∈ places, place.unread = name.toList ++ '}' :: after ∧
      place.Admits value.display.toList (fillNames (shown values) after)

theorem admits_iff {place : ArgumentPlace} {value next : List Char} : place.Admits value next ↔
    (place.inPlural = true → '#' ∉ value) ∧ (place.quoting = .maybeOff → value = [] → next.head? ≠ some '\'') :=
  ⟨fun h => ⟨h.no_pound, h.apart⟩, fun h => ⟨h.1, h.2⟩⟩

instance (place : ArgumentPlace) (value next : List Char) : Decidable (place.Admits value next) :=
  decidable_of_iff' _ admits_iff

/-- Does the value that is put where the text begins take the place of an argument, if one is put there? -/
def coversFront (values : Variables) (places : List ArgumentPlace) : List Char → Bool
  | '{' :: unread =>
    match readName? unread with
    | some name =>
      match values.get? name.value with
      | some value => places.any fun place =>
          place.unread = unread ∧ place.Admits value.display.toList (fillNames (shown values) name.rest)
      | none => true
    | none => true
  | _ => true

/-- For a value that is put where the text begins, the check finds its place. -/
theorem coversFront_eq_true_iff {name : String} {value : Value} {after : List Char} (hname : IsName name)
    (hvalue : values.get? name = some value) :
    coversFront values places (bracedName name ++ after) = true ↔ ∃ place ∈ places,
      place.unread = name.toList ++ '}' :: after ∧ place.Admits value.display.toList (fillNames (shown values) after) := by
  obtain ⟨read, hread, hname', hrest⟩ := readName?_append hname after
  rw [show bracedName name ++ after = '{' :: (name.toList ++ '}' :: after) by simp [bracedName]]
  simp only [coversFront, hread, hname', hvalue, hrest, List.any_eq_true, decide_eq_true_eq]

/-- Only the ends of a text need to be looked at. -/
theorem covers_iff : Covers values places s rest ↔
    ∀ u ∈ s.tails, rest.length < u.length → coversFront values places u = true := by
  simp only [List.mem_tails]
  constructor
  · intro h u hu hlength
    by_cases hhole : IsHole values u
    · obtain ⟨name, value, after, hname, hvalue, rfl⟩ := hhole
      exact (coversFront_eq_true_iff hname hvalue).mpr (h name value after hu hlength hname hvalue)
    · unfold coversFront
      split
      · next unread =>
        split
        · next read hread =>
          split
          · next value hvalue =>
            exfalso
            exact hhole ⟨_, value, _, isName_of_readName? hread, hvalue, eq_bracedName_of_readName? hread⟩
          · rfl
        · rfl
      · rfl
  · intro h name value after hu hlength hname hvalue
    exact (coversFront_eq_true_iff hname hvalue).mp (h _ hu hlength)

instance (values : Variables) (places : List ArgumentPlace) (s rest : List Char) : Decidable (Covers values places s rest) :=
  decidable_of_iff' _ covers_iff

/-- A shorter text is covered by the places that lie in it. -/
theorem Covers.narrow {places' : List ArgumentPlace} {s' rest' : List Char} (h : Covers values places s rest) (hs : s' <:+ s)
    (hrest : rest.length ≤ rest'.length) (hplaces : ∀ place ∈ places, place.Between s' rest' → place ∈ places') :
    Covers values places' s' rest' := by
  intro name value after hsuffix hlength hname hvalue
  obtain ⟨place, hplace, hunread, hadmits⟩ :=
    h name value after (hsuffix.trans hs) (Nat.lt_of_le_of_lt hrest hlength) hname hvalue
  have hunread' : (bracedName name ++ after).length = place.unread.length + 1 := by
    rw [hunread]
    simp [bracedName]
  have hle := hsuffix.length_le
  exact ⟨place, hplaces place hplace ⟨by omega, by omega⟩, hunread, hadmits⟩

theorem Covers.of_suffix {s' : List Char} (h : Covers values places s rest) (hs : s' <:+ s) : Covers values places s' rest :=
  h.narrow hs (Nat.le_refl _) fun _ hplace _ => hplace

/-- Where no argument begins, nothing is put. -/
theorem Covers.fillNames_append (h : Covers values [] (a ++ rest) rest) :
    fillNames (shown values) (a ++ rest) = a ++ fillNames (shown values) rest := by
  apply fillNames_append_of_no_hole
  rintro u hu hlength ⟨name, value, after, hname, hvalue, rfl⟩
  obtain ⟨place, hplace, -⟩ := h name value after hu hlength hname hvalue
  cases hplace

/-- Nothing is put before the brace that closes the branches. -/
theorem Covers.fillNames_close (h : Covers values [] (a ++ '}' :: rest) rest) :
    fillNames (shown values) (a ++ '}' :: rest) = a ++ '}' :: fillNames (shown values) rest := by
  rw [List.append_cons] at h ⊢
  rw [h.fillNames_append, List.append_assoc]
  rfl

/-- Up to where the first argument may begin, nothing is put. -/
theorem Covers.fillNames_front (h : Covers values places (a ++ t) rest) (hrest : rest.length ≤ t.length)
    (hplaces : ∀ place ∈ places, place.unread.length < t.length) :
    fillNames (shown values) (a ++ t) = a ++ fillNames (shown values) t := by
  refine (h.narrow List.suffix_rfl hrest fun place hplace hbetween => ?_).fillNames_append
  exact absurd hbetween.1 (Nat.not_le_of_lt (hplaces place hplace))

/-- Where no argument begins behind it, a character stays. -/
theorem Covers.fillNames_cons {rest : List Char} (h : Covers values places (c :: s) rest)
    (hrest : rest.length ≤ s.length) (hplaces : ∀ place ∈ places, place.unread ≠ s) :
    fillNames (shown values) (c :: s) = c :: fillNames (shown values) s := by
  apply fillNames_cons_of_not_hole
  rintro ⟨name, value, after, hname, hvalue, heq⟩
  obtain ⟨place, hplace, hunread, -⟩ :=
    h name value after (heq ▸ List.suffix_rfl) (heq ▸ Nat.lt_succ_of_le hrest) hname hvalue
  apply hplaces place hplace
  rw [hunread]
  simpa [bracedName] using (List.cons.inj heq).2.symm

/-! ## Filled parts -/

/-- The filled text is read as a part with the same head or keys that is rendered alike. -/
def Part.IsFilled (locale : String) (values : Variables) : Part → List Char → List Char → Prop
  | .nodes q p n nodes, s, rest => ∃ nodes' places, Reads (.nodes q p n nodes') s rest places ∧
      ∀ pound, Keeps (renderNodes locale values pound nodes) (renderNodes locale values pound nodes')
  | .argument p node, s, rest => ∃ node' places, Reads (.argument p node') s rest places ∧
      ∀ pound, Keeps (renderNode locale values pound node) (renderNode locale values pound node')
  | .pluralBranches branches, s, rest => ∃ branches' places, Reads (.pluralBranches branches') s rest places ∧
      branches'.map Prod.fst = branches.map Prod.fst ∧ ∀ pound p, Option.Rel Keeps
        (renderPlural locale values pound p branches) (renderPlural locale values pound p branches')
  | .selectBranches p branches, s, rest => ∃ branches' places, Reads (.selectBranches p branches') s rest places ∧
      branches'.map Prod.fst = branches.map Prod.fst ∧ ∀ pound p, Option.Rel Keeps
        (renderSelect locale values pound p branches) (renderSelect locale values pound p branches')

/-- Whether there is a branch depends on the keys alone. -/
theorem hasBranch_eq_of_keys {κ : Type} [BEq κ] {key : κ} {branches branches' : List (κ × List Node)}
    (h : branches'.map Prod.fst = branches.map Prod.fst) : hasBranch key branches' = hasBranch key branches := by
  have hany : ∀ bs : List (κ × List Node), hasBranch key bs = (bs.map Prod.fst).any (· == key) := by
    intro bs
    rw [List.any_map]
    rfl
  rw [hany, hany, h]

/-! ## A value in place of an argument -/

theorem prepend_nil (nodes : List Node) : prepend [] nodes = nodes := by
  unfold prepend
  split
  · rw [List.nil_append, String.ofList_toList]
  · rfl

theorem prepend_cons (c : Char) (out : List Char) (nodes : List Node) :
    prepend (c :: out) nodes = prepend [c] (prepend out nodes) := by
  cases out with
  | nil => rw [prepend_nil]
  | cons d out =>
    cases nodes with
    | nil => simp [prepend, consText]
    | cons node nodes => cases node <;> simp [prepend, consText]

/-- Plain text goes on as text in both states in which an argument may begin. -/
theorem textStep_plain (hc : c ≠ '{' ∧ c ≠ '}' ∧ c ≠ '\'') (hpound : p = true → c ≠ '#') (hq : textStep p q '{' = none) :
    textStep p q c = some ([c], .off) := by
  have hmark : isMark p c = false := by
    cases p with
    | false => simp [isMark, hc]
    | true => simp [isMark, hc, hpound rfl]
  cases q with
  | off => simp [textStep, hmark, hc]
  | maybeOff => simp [textStep, hmark, hc]
  | maybeOn => cases hq
  | on => cases hq

/-- Plain text may stand before what is read outside quotes. -/
theorem reads_append_off {text : List Char} (hplain : IsPlain text) (hpound : p = true → '#' ∉ text)
    (h : Reads (.nodes .off p n nodes) s rest places) :
    Reads (.nodes .off p n (prepend text nodes)) (text ++ s) rest places := by
  induction text with
  | nil =>
    rw [prepend_nil]
    exact h
  | cons c text ih =>
    have hreads := ih (fun d hd => hplain d (List.mem_cons_of_mem c hd))
      fun hp hmem => hpound hp (List.mem_cons_of_mem c hmem)
    have hc : p = true → c ≠ '#' := fun hp heq => hpound hp (heq ▸ List.mem_cons_self)
    rw [prepend_cons]
    exact .text (textStep_plain (hplain c List.mem_cons_self) hc rfl) hreads

/-- What is read outside quotes is read behind the end of a quote as well if it does not begin with an apostrophe. -/
theorem reads_maybeOff (h : Reads (.nodes .off p n nodes) s rest places) (hs : s.head? ≠ some '\'') :
    ∃ places, Reads (.nodes .maybeOff p n nodes) s rest places := by
  have hstep : ∀ c, s.head? = some c → textStep p .maybeOff c = textStep p .off c := by
    intro c hc
    have hne : c ≠ '\'' := by
      rintro rfl
      exact hs hc
    simp [textStep, hne]
  cases h with
  | done => exact ⟨_, .done⟩
  | text hoff hnodes => exact ⟨_, .text ((hstep _ rfl).trans hoff) hnodes⟩
  | closed hoff => exact ⟨_, .closed ((hstep _ rfl).trans hoff)⟩
  | pound hoff hnodes => exact ⟨_, .pound ((hstep _ rfl).trans hoff) hnodes⟩
  | argument hoff hnode hnodes => exact ⟨_, .argument ((hstep _ rfl).trans hoff) hnode hnodes⟩

/-- The text of a value is read where an argument may begin. -/
theorem reads_value {text : List Char} (hplain : IsPlain text) (hq : textStep p q '{' = none)
    (hpound : p = true → '#' ∉ text) (hapart : q = .maybeOff → text = [] → s.head? ≠ some '\'')
    (h : Reads (.nodes .off p n nodes) s rest places) :
    ∃ places, Reads (.nodes q p n (prepend text nodes)) (text ++ s) rest places := by
  cases text with
  | nil =>
    rw [prepend_nil]
    cases q with
    | off => exact ⟨_, h⟩
    | maybeOff => exact reads_maybeOff h (hapart rfl rfl)
    | maybeOn => cases hq
    | on => cases hq
  | cons c text =>
    have hreads := reads_append_off (fun d hd => hplain d (List.mem_cons_of_mem c hd))
      (fun hp hmem => hpound hp (List.mem_cons_of_mem c hmem)) h
    have hc : p = true → c ≠ '#' := fun hp heq => hpound hp (heq ▸ List.mem_cons_self)
    rw [prepend_cons]
    exact ⟨places, .text (textStep_plain (hplain c List.mem_cons_self) hc hq) hreads⟩

/-- A name and the brace that closes it are read as the argument. -/
theorem eq_of_reads_argument {name : String} {after : List Char} (hname : IsName name)
    (h : Reads (.argument p node) (name.toList ++ '}' :: after) t places) :
    node = .argument name ∧ t = after ∧ places = [] := by
  have hblanks : Blanks [] := by simp [Blanks]
  have hhead : ReadsHead (.argument name) ([] ++ (name.toList ++ ([] ++ '}' :: after))) after :=
    .argument (isArgumentName_of_isName hname) hblanks hblanks
  rw [List.nil_append, List.nil_append] at hhead
  cases h with
  | value h =>
    obtain ⟨heq, rfl⟩ := h.unique hhead
    obtain rfl := Head.argument.inj heq
    exact ⟨rfl, rfl, rfl⟩
  | number h => cases (h.unique hhead).1
  | plural h _ _ => cases (h.unique hhead).1
  | select h _ _ => cases (h.unique hhead).1

/-! ## The filled message -/

section Branches

variable {selector : String} {inside : List ArgumentPlace}

/-- Nothing is put into the key of a branch. -/
theorem Covers.fillNames_key (h : Covers values (inside ++ places) (a ++ s) rest)
    (hinside : ∀ place ∈ inside, place.Between s ('}' :: t)) (hplaces : ∀ place ∈ places, place.Between t rest)
    (ht : '}' :: t <:+ s) (hrest : rest <:+ t) :
    fillNames (shown values) (a ++ s) = a ++ fillNames (shown values) s := by
  have hlength := ht.length_le
  have hlength' := hrest.length_le
  rw [List.length_cons] at hlength
  refine h.fillNames_front (by omega) fun place hplace => ?_
  rcases List.mem_append.mp hplace with hplace | hplace
  · exact (hinside place hplace).2
  · have hlt := (hplaces place hplace).2
    omega

/-- The values in a branch are covered by the places in it. -/
theorem Covers.branch (h : Covers values (inside ++ places) (a ++ s) rest)
    (hplaces : ∀ place ∈ places, place.Between t rest) (hrest : rest <:+ t) :
    Covers values inside s ('}' :: t) := by
  have hlength := hrest.length_le
  refine h.narrow (List.suffix_append ..) (by rw [List.length_cons]; omega) fun place hplace hbetween => ?_
  rcases List.mem_append.mp hplace with hplace | hplace
  · exact hplace
  · have hlt := (hplaces place hplace).2
    have hle := hbetween.1
    rw [List.length_cons] at hle
    omega

/-- The values behind a branch are covered by the places behind it. -/
theorem Covers.branches (h : Covers values (inside ++ places) (a ++ s) rest)
    (hinside : ∀ place ∈ inside, place.Between s ('}' :: t)) (ht : '}' :: t <:+ s) : Covers values places t rest := by
  refine h.narrow ?_ (Nat.le_refl _) fun place hplace hbetween => ?_
  · exact (List.suffix_cons ..).trans (ht.trans (List.suffix_append ..))
  · rcases List.mem_append.mp hplace with hplace | hplace
    · have hle := (hinside place hplace).1
      have hlt := hbetween.2
      rw [List.length_cons] at hle
      omega
    · exact hplace

end Branches

/-- Up to the first brace of its branches, a plural stays as it is. -/
theorem Reads.beginAlike {branches : List (PluralKey × List Node)} (h : Reads (.pluralBranches branches) s rest places)
    (hcovers : Covers values places s rest) : BeginAlike s (fillNames (shown values) s) := by
  cases h with
  | @pluralEnd b _ hb =>
    rw [hcovers.fillNames_close]
    exact ⟨b, '}', by decide, ⟨rest, by simp⟩, ⟨fillNames (shown values) rest, by simp⟩⟩
  | @pluralBranch selector key _ s t _ nodes branches inside places ha hkey hnodes hbranches =>
    rw [hcovers.fillNames_key hnodes.between hbranches.between hnodes.suffix hbranches.suffix]
    obtain ⟨hb, hselector, hb'⟩ := ha
    rename_i b b'
    refine ⟨b ++ (selector.toList ++ b'), '{', by decide, ?_, ?_⟩
    · exact ⟨s, by simp⟩
    · exact ⟨fillNames (shown values) s, by simp⟩

section Argument

variable {inside : List ArgumentPlace}

/-- The values inside an argument are covered by the places inside it. -/
theorem Covers.in_argument (h : Covers values (⟨p, q, s⟩ :: (inside ++ places)) ('{' :: s) rest)
    (hplaces : ∀ place ∈ places, place.Between t rest) (hrest : rest <:+ t) : Covers values inside s t := by
  refine h.narrow (List.suffix_cons ..) hrest.length_le fun place hplace hbetween => ?_
  rcases List.mem_cons.mp hplace with rfl | hplace
  · exact absurd hbetween.2 (Nat.lt_irrefl _)
  · rcases List.mem_append.mp hplace with hplace | hplace
    · exact hplace
    · exact absurd hbetween.1 (Nat.not_le_of_lt (hplaces place hplace).2)

/-- The values behind an argument are covered by the places behind it. -/
theorem Covers.after_argument (h : Covers values (⟨p, q, s⟩ :: (inside ++ places)) ('{' :: s) rest)
    (hinside : ∀ place ∈ inside, place.Between s t) (ht : t <:+ s) : Covers values places t rest := by
  refine h.narrow (ht.trans (List.suffix_cons ..)) (Nat.le_refl _) fun place hplace hbetween => ?_
  rcases List.mem_cons.mp hplace with rfl | hplace
  · exact absurd hbetween.2 (Nat.not_lt_of_le ht.length_le)
  · rcases List.mem_append.mp hplace with hplace | hplace
    · exact absurd hbetween.2 (Nat.not_lt_of_le (hinside place hplace).1)
    · exact hplace

/-- Where a value is put, its text is read instead of the argument. -/
theorem isFilled_of_hole (hplain : ∀ name value, values.get? name = some value → IsPlain value.display.toList)
    (hstep : textStep p q '{' = none) (hnode : Reads (.argument p node) s t inside)
    (hplaces : ∀ place ∈ places, place.Between t rest) (hrest : rest <:+ t)
    (hcovers : Covers values (⟨p, q, s⟩ :: (inside ++ places)) ('{' :: s) rest) (hhole : IsHole values ('{' :: s))
    (ih : (Part.nodes .off p n nodes).IsFilled locale values (fillNames (shown values) t) u) :
    (Part.nodes q p n (node :: nodes)).IsFilled locale values (fillNames (shown values) ('{' :: s)) u := by
  obtain ⟨name, value, after, hname, hvalue, hs⟩ := hhole
  obtain rfl : s = name.toList ++ '}' :: after := by simpa [bracedName] using hs
  obtain ⟨rfl, rfl, rfl⟩ := eq_of_reads_argument hname hnode
  have hadmits : ArgumentPlace.Admits ⟨p, q, name.toList ++ '}' :: t⟩ value.display.toList (fillNames (shown values) t) := by
    have hlength : rest.length < (bracedName name ++ t).length := by
      have hle := hrest.length_le
      simp only [bracedName, List.cons_append, List.length_cons, List.length_append]
      omega
    obtain ⟨place, hplace, hunread, hadmits⟩ := hcovers name value t (hs ▸ List.suffix_rfl) hlength hname hvalue
    rcases List.mem_cons.mp hplace with rfl | hplace
    · exact hadmits
    · -- the other places lie behind the argument
      have hlt := (hplaces place hplace).2
      rw [hunread, List.length_append, List.length_cons] at hlt
      omega
  obtain ⟨nodes', _, hreads, hkeeps⟩ := ih
  obtain ⟨_, hreads'⟩ := reads_value (hplain name value hvalue) hstep hadmits.no_pound hadmits.apart hreads
  rw [hs, fillNames_of_hole hname hvalue]
  exact ⟨_, _, hreads', fun pound => keeps_argument hvalue (hkeeps pound)⟩

end Argument

/-- What is read from a message in which every value has a place is read from the filled message, alike for rendering. -/
theorem Reads.isFilled (hplain : ∀ name value, values.get? name = some value → IsPlain value.display.toList)
    (h : Reads part s rest places) (hcovers : Covers values places s rest) :
    part.IsFilled locale values (fillNames (shown values) s) (fillNames (shown values) rest) := by
  induction h with
  | @done q p n =>
    rw [fillNames_nil]
    exact ⟨_, _, .done, fun _ => .refl _⟩
  | @text q q' p n c out s rest nodes places hstep hnodes ih =>
    have hbetween := hnodes.between
    have hfill := hcovers.fillNames_cons hnodes.suffix.length_le fun place hplace heq =>
      Nat.lt_irrefl _ (heq ▸ (hbetween place hplace).2)
    obtain ⟨nodes', places', hreads, hkeeps⟩ := ih (hcovers.of_suffix (List.suffix_cons ..))
    rw [hfill]
    exact ⟨_, _, .text hstep hreads, fun pound => keeps_prepend (hkeeps pound)⟩
  | @closed q p s hstep =>
    rw [Template.fillNames_cons (by decide)]
    exact ⟨_, _, .closed hstep, fun _ => .refl _⟩
  | @pound q p n s rest nodes places hstep hnodes ih =>
    obtain ⟨nodes', places', hreads, hkeeps⟩ := ih (hcovers.of_suffix (List.suffix_cons ..))
    rw [Template.fillNames_cons (by decide)]
    exact ⟨_, _, .pound hstep hreads, fun pound => keeps_cons (.refl _) (hkeeps pound)⟩
  | @argument q p n s t rest node nodes inside places hstep hnode hnodes ihnode ih =>
    have hlater := ih (hcovers.after_argument hnode.between hnode.suffix)
    -- either the whole argument is replaced, or values are put inside it and it stays an argument
    by_cases hhole : IsHole values ('{' :: s)
    · exact isFilled_of_hole hplain hstep hnode hnodes.between hnodes.suffix hcovers hhole hlater
    · obtain ⟨node', _, hreads, hkeeps⟩ := ihnode (hcovers.in_argument hnodes.between hnodes.suffix)
      obtain ⟨nodes', _, hreads', hkeeps'⟩ := hlater
      rw [fillNames_cons_of_not_hole hhole]
      exact ⟨_, _, .argument hstep hreads hreads', fun pound => keeps_cons (hkeeps pound) (hkeeps' pound)⟩
  | value hhead =>
    obtain ⟨a, -, rfl, hchange⟩ := hhead.change
    rw [hcovers.fillNames_append]
    exact ⟨_, _, .value (hchange _ nofun), fun _ => .refl _⟩
  | number hhead =>
    obtain ⟨a, -, rfl, hchange⟩ := hhead.change
    rw [hcovers.fillNames_append]
    exact ⟨_, _, .number (hchange _ nofun), fun _ => .refl _⟩
  | @plural p name offset s t rest branches places hhead hbranches hother ih =>
    obtain ⟨a, -, rfl, hchange⟩ := hhead.change
    have hlater : Covers values places t rest := hcovers.of_suffix (List.suffix_append ..)
    obtain ⟨branches', places', hreads, hkeys, hrel⟩ := ih hlater
    rw [hcovers.fillNames_front hbranches.suffix.length_le fun place hplace => (hbranches.between place hplace).2]
    -- a plural that has no offset must not get one from what its branches begin with now
    refine ⟨_, _, .plural (hchange _ fun _ _ _ => hbranches.beginAlike hlater) hreads ?_, fun pound => keeps_plural hrel⟩
    rw [hasBranch_eq_of_keys hkeys, hother]
  | @select p name s t rest branches places hhead hbranches hother ih =>
    obtain ⟨a, -, rfl, hchange⟩ := hhead.change
    have hlater : Covers values places t rest := hcovers.of_suffix (List.suffix_append ..)
    obtain ⟨branches', places', hreads, hkeys, hrel⟩ := ih hlater
    rw [hcovers.fillNames_front hbranches.suffix.length_le fun place hplace => (hbranches.between place hplace).2]
    refine ⟨_, _, .select (hchange _ nofun) hreads ?_, fun pound => keeps_select (hrel pound)⟩
    rw [hasBranch_eq_of_keys hkeys, hother]
  | @pluralEnd b rest hb =>
    rw [hcovers.fillNames_close]
    exact ⟨_, _, .pluralEnd hb, rfl, fun _ _ => .none⟩
  | @pluralBranch selector key a s t rest nodes branches inside places ha hkey hnodes hbranches ihnodes ih =>
    obtain ⟨nodes', _, hreads, hkeeps⟩ := ihnodes (hcovers.branch hbranches.between hbranches.suffix)
    obtain ⟨branches', _, hreads', hkeys, hrel⟩ := ih (hcovers.branches hnodes.between hnodes.suffix)
    rw [hcovers.fillNames_key hnodes.between hbranches.between hnodes.suffix hbranches.suffix]
    rw [Template.fillNames_cons (by decide)] at hreads
    refine ⟨_, _, .pluralBranch ha hkey hreads hreads', ?_, fun pound p => ?_⟩
    · rw [List.map_cons, List.map_cons, hkeys]
    · exact rel_renderPlural_cons (hkeeps pound) (hrel pound p)
  | @selectEnd p b rest hb =>
    rw [hcovers.fillNames_close]
    exact ⟨_, _, .selectEnd hb, rfl, fun _ _ => .none⟩
  | @selectBranch p key a s t rest nodes branches inside places ha hnodes hbranches ihnodes ih =>
    obtain ⟨nodes', _, hreads, hkeeps⟩ := ihnodes (hcovers.branch hbranches.between hbranches.suffix)
    obtain ⟨branches', _, hreads', hkeys, hrel⟩ := ih (hcovers.branches hnodes.between hnodes.suffix)
    rw [hcovers.fillNames_key hnodes.between hbranches.between hnodes.suffix hbranches.suffix]
    rw [Template.fillNames_cons (by decide)] at hreads
    refine ⟨_, _, .selectBranch ha hreads hreads', ?_, fun pound p => ?_⟩
    · rw [List.map_cons, List.map_cons, hkeys]
    · exact rel_renderSelect_cons (hkeeps pound) (hrel pound p)

end Phrasebook.Message
