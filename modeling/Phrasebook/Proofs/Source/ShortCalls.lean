import Phrasebook.Proofs.Regex.EndsInText
import Phrasebook.Proofs.Source.Positions
import Phrasebook.Proofs.Source.StandardRules
import Phrasebook.Proofs.Unicode.CaseImages

/-!
# Short calls with an id

What the rule for short calls matches (`mem_ends_idCall_iff`): a name, an apostrophe, a quoted text, an apostrophe and a closing
parenthesis. A quoted text passes no apostrophe that has no backslash before it (`Quoted.le_of_quote`). So a match that begins
before a call `__('id')` ends before it (`Written.lt_of_before`): the apostrophes of the call are neither inside of the match nor
one of its own, as what follows each of them does not fit. So no such call is missed, whatever stands around it
(`scanText_shortCall`).
-/

namespace Phrasebook.Standard

open Regex Unicode

variable {s id : List Char} {a b e i j k x : Nat} {c : Char} {q : Regex.Place}

/-! ## What the rule matches -/

/-- One step inside of apostrophes: a character that stands for itself, or a backslash and the character after it. -/
def QuotedStep (s : List Char) (i j : Nat) : Prop :=
  (∃ c, s[i]? = some c ∧ notQuoted.has c.toNat = true) ∧ j = i + 1 ∨
  s[i]? = some '\\' ∧ (∃ c, s[i + 1]? = some c ∧ notLineFeed.has c.toNat = true) ∧ j = i + 2

/-- What stands from one place to another can stand between apostrophes. -/
def Quoted (s : List Char) : Nat → Nat → Prop := Relation.ReflTransGen (QuotedStep s)

/-- A short call from `i` on, with its apostrophes at `a` and `b` and its parenthesis at `e`. -/
structure ShortCall (s : List Char) (i a b e : Nat) : Prop where
  boundary : (Assertion.word .boundary true).holds (s.take i).getLast? s[i]? = true
  name : "__(".toList <+: s.drop i
  before : Run s Property.whiteSpace (i + 3) a
  opening : s[a]? = some '\''
  inside : Quoted s (a + 1) b
  closing : s[b]? = some '\''
  after : Run s Property.whiteSpace (b + 1) e
  stop : s[e]? = some ')'

theorem mem_ends_quoted_iff {n m : Nat} {groups : List (Nat × Nat × Nat)} :
    q ∈ (Plan.loop n false (.choice m (.oneOf notQuoted) (.sequence (.text ['\\']) (.oneOf notLineFeed)))).ends
      (placeAt s i groups) ↔ ∃ j, Quoted s i j ∧ q = placeAt s j groups := by
  refine mem_ends_loop_placeAt_iff rfl fun i q => ?_
  rw [mem_ends_choice_iff, mem_ends_oneOf_iff, mem_ends_sequence_iff]
  constructor
  · rintro (⟨c, hc, hset, rfl⟩ | ⟨r, hr, hq⟩)
    · exact ⟨i + 1, .inl ⟨⟨c, hc, hset⟩, rfl⟩, rfl⟩
    · obtain ⟨hbackslash, rfl⟩ := mem_ends_char_iff.mp hr
      obtain ⟨c, hc, hset, rfl⟩ := mem_ends_oneOf_iff.mp hq
      exact ⟨i + 2, .inr ⟨hbackslash, ⟨c, hc, hset⟩, rfl⟩, rfl⟩
  · rintro ⟨j, ⟨⟨c, hc, hset⟩, rfl⟩ | ⟨hbackslash, ⟨c, hc, hset⟩, rfl⟩, rfl⟩
    · exact .inl ⟨c, hc, hset, rfl⟩
    · exact .inr ⟨_, mem_ends_char_iff.mpr ⟨hbackslash, rfl⟩, mem_ends_oneOf_iff.mpr ⟨c, hc, hset, rfl⟩⟩

/-- The rule ends behind a short call, whose quoted text is the first group. -/
theorem mem_ends_idCall_iff : q ∈ idCall.matcher.plan.ends (placeAt s i []) ↔
    ∃ a b e, ShortCall s i a b e ∧ q = placeAt s (e + 1) [(1, a + 1, b)] := by
  have hplan : idCall.matcher.plan =
      .sequence (.assertion (.word .boundary true)) (.sequence (.text "__(".toList)
        (.sequence (.loop 0 false (.oneOf Property.whiteSpace)) (.sequence (.text ['\''])
          (.sequence (.group 1 (.loop 2 false (.choice 1 (.oneOf notQuoted) (.sequence (.text ['\\']) (.oneOf notLineFeed)))))
            (.sequence (.text ['\'']) (.sequence (.loop 3 false (.oneOf Property.whiteSpace)) (.text [')']))))))) := rfl
  rw [hplan, mem_ends_assertion_then_iff, mem_ends_text_then_iff]
  simp only [mem_ends_loop_then_iff, mem_ends_char_then_iff, mem_ends_group_then_iff fun _ => mem_ends_quoted_iff,
    mem_ends_char_iff]
  constructor
  · rintro ⟨hboundary, hname, a, hbefore, hopening, b, hinside, hclosing, e, hafter, hstop, rfl⟩
    exact ⟨a, b, e, ⟨hboundary, hname, hbefore, hopening, hinside, hclosing, hafter, hstop⟩, rfl⟩
  · rintro ⟨a, b, e, ⟨hboundary, hname, hbefore, hopening, hinside, hclosing, hafter, hstop⟩, rfl⟩
    exact ⟨hboundary, hname, a, hbefore, hopening, b, hinside, hclosing, e, hafter, hstop, rfl⟩

/-! ## Apostrophes -/

theorem toNat_le_lastCodePoint (c : Char) : c.toNat ≤ lastCodePoint := by
  have hvalid := c.valid
  simp only [UInt32.isValidChar, Nat.isValidChar] at hvalid
  rw [lastCodePoint, Char.toNat]
  omega

theorem has_notQuoted_iff : notQuoted.has c.toNat = true ↔ c ≠ '\'' ∧ c ≠ '\\' := by
  have hquote : c = '\'' ↔ c.toNat = 39 := by rw [← Char.toNat_inj]; rfl
  have hbackslash : c = '\\' ↔ c.toNat = 92 := by rw [← Char.toNat_inj]; rfl
  have hlast := toNat_le_lastCodePoint c
  simp only [notQuoted, Ranges.has, Bool.if_false_left, ne_eq, hquote, hbackslash]
  simp
  omega

theorem QuotedStep.lt (h : QuotedStep s i j) : i < j := by
  rcases h with ⟨-, rfl⟩ | ⟨-, -, rfl⟩ <;> omega

theorem Quoted.le (h : Quoted s i j) : i ≤ j := by
  induction h with
  | refl => exact Nat.le_refl _
  | tail _ hlast ih => exact ih.trans hlast.lt.le

/-- A quoted text passes no apostrophe that has no backslash before it. -/
theorem Quoted.le_of_quote (h : Quoted s i j) (hquote : s[x]? = some '\'') (hbackslash : ∀ y, y + 1 = x → s[y]? ≠ some '\\')
    (hle : i ≤ x) : j ≤ x := by
  induction h with
  | refl => exact hle
  | tail _ hlast ih =>
    rcases hlast with ⟨⟨c, hc, hset⟩, rfl⟩ | ⟨hc, -, rfl⟩
    · rcases ih.eq_or_lt with rfl | hlt
      · obtain rfl := Option.some.inj (hquote.symm.trans hc)
        exact absurd rfl (has_notQuoted_iff.mp hset).1
      · exact hlt
    · rcases ih.eq_or_lt with rfl | hlt
      · cases hquote.symm.trans hc
      · have hne : _ + 1 ≠ x := fun heq => hbackslash _ heq hc
        omega

theorem quoted_of_run (h : Run s notQuoted i j) : Quoted s i j :=
  (run_iff_steps.mp h).lift (fun i => i) fun _ _ => .inl

/-! ## Calls -/

/-- May the character stand in the id of a short call? -/
def isIdChar (c : Char) : Bool := c.isAlphanum || c == '_' || c == '.' || c == '-'

/-- A short call with an id, as it is written. -/
def shortCall (id : List Char) : List Char := "__('".toList ++ id ++ "')".toList

theorem toNat_lt_of_isAlphanum (h : c.isAlphanum = true) : c.toNat < 128 := by
  rcases Bool.or_eq_true_iff.mp h with halpha | hdigit
  · exact toNat_lt_of_isAlpha halpha
  · have hle := of_decide_eq_true (Bool.and_eq_true_iff.mp hdigit).2
    exact Nat.lt_of_le_of_lt (UInt32.le_iff_toNat_le.mp hle) (by decide)

theorem toNat_lt_of_isIdChar (h : isIdChar c = true) : c.toNat < 128 := by
  simp only [isIdChar, Bool.or_eq_true, beq_iff_eq] at h
  rcases h with ((h | rfl) | rfl) | rfl
  · exact toNat_lt_of_isAlphanum h
  all_goals decide

/-- A character of an id stands for itself between apostrophes, and it is no mark of a call. -/
theorem idChar_facts (h : isIdChar c = true) :
    notQuoted.has c.toNat = true ∧ Property.whiteSpace.has c.toNat = false ∧ c ≠ '\'' ∧ c ≠ ')' ∧ c ≠ '\\' :=
  forall_ascii (P := fun c => isIdChar c = true → notQuoted.has c.toNat = true ∧ Property.whiteSpace.has c.toNat = false ∧
    c ≠ '\'' ∧ c ≠ ')' ∧ c ≠ '\\') (by decide) (toNat_lt_of_isIdChar h) h

/-- A call `__('id')` is written from `k` on. -/
structure Written (s id : List Char) (k : Nat) : Prop where
  nonempty : id ≠ []
  idChars : ∀ c ∈ id, isIdChar c = true
  call : shortCall id <+: s.drop k

namespace Written

theorem parts (h : Written s id k) :
    "__('".toList <+: s.drop k ∧ id <+: s.drop (k + 4) ∧ "')".toList <+: s.drop (k + 4 + id.length) :=
  parts_of_drop h.call

theorem getElem?_name (h : Written s id k) : s[k]? = some '_' ∧ s[k + 1]? = some '_' ∧ s[k + 2]? = some '(' ∧
    s[k + 3]? = some '\'' :=
  have hname : ∀ n < 4, s[k + n]? = "__('".toList[n]? := fun n hn => getElem?_of_drop h.parts.1 hn
  ⟨hname 0 (by decide), hname 1 (by decide), hname 2 (by decide), hname 3 (by decide)⟩

theorem getElem?_end (h : Written s id k) : s[k + 4 + id.length]? = some '\'' ∧ s[k + 4 + id.length + 1]? = some ')' :=
  have hend : ∀ n < 2, s[k + 4 + id.length + n]? = "')".toList[n]? := fun n hn => getElem?_of_drop h.parts.2.2 hn
  ⟨hend 0 (by decide), hend 1 (by decide)⟩

/-- Between the apostrophes there is a character of the id. -/
theorem isIdChar_of_getElem? (h : Written s id k) {j : Nat} (hle : k + 4 ≤ j) (hlt : j < k + 4 + id.length) (hc : s[j]? = some c) :
    isIdChar c = true :=
  h.idChars c (mem_of_drop h.parts.2.1 hle hlt hc)

/-- Where a call is written, not behind a word character, the rule matches it. -/
theorem shortCall (h : Written s id k) (hword : isWordSide true (s.take k).getLast? = false) :
    ShortCall s k (k + 3) (k + 4 + id.length) (k + 4 + id.length + 1) := by
  obtain ⟨hfirst, -, -, hopening⟩ := h.getElem?_name
  obtain ⟨hclosing, hstop⟩ := h.getElem?_end
  refine ⟨?_, ?_, .refl .., hopening, quoted_of_run (run_of_drop h.parts.2.1 fun c hc => (idChar_facts (h.idChars c hc)).1),
    hclosing, .refl .., hstop⟩
  · rw [hfirst, Assertion.holds, WordAssertion.holds, hword]
    rfl
  · exact (show "__(".toList <+: "__('".toList from ⟨['\''], rfl⟩).trans h.parts.1

/-- It matches nothing else there. -/
theorem eq_of_shortCall (h : Written s id k) (hcall : ShortCall s k a b e) :
    a = k + 3 ∧ b = k + 4 + id.length ∧ e = k + 4 + id.length + 1 := by
  obtain ⟨-, -, -, hopening⟩ := h.getElem?_name
  obtain ⟨hclosing, hstop⟩ := h.getElem?_end
  obtain rfl : a = k + 3 := Nat.le_antisymm (hcall.before.le_of_not_has hopening (by decide) (Nat.le_refl _)) hcall.before.1
  have hle := hcall.inside.le
  obtain rfl : b = k + 4 + id.length := by
    refine Nat.le_antisymm (hcall.inside.le_of_quote hclosing (fun y hy hbackslash => ?_) (Nat.le_add_right _ _)) ?_
    · -- before the closing apostrophe stands a character of the id
      have hpos := List.length_pos_iff.mpr h.nonempty
      exact (idChar_facts (h.isIdChar_of_getElem? (by omega) (by omega) hbackslash)).2.2.2.2 rfl
    · by_contra hlt
      exact (idChar_facts (h.isIdChar_of_getElem? hle (by omega) hcall.closing)).2.2.1 rfl
  exact ⟨rfl, rfl, Nat.le_antisymm (hcall.after.le_of_not_has hstop (by decide) (Nat.le_refl _)) hcall.after.1⟩

/-- A match that begins before the call ends before it. -/
theorem lt_of_before (h : Written s id k) (hcall : ShortCall s j a b e) (hjk : j < k) : e < k := by
  obtain ⟨hfirst, hsecond, hthird, hquote⟩ := h.getElem?_name
  have hpos := List.length_pos_iff.mpr h.nonempty
  obtain ⟨c, hc⟩ : ∃ c, s[k + 4]? = some c := by
    have hid := getElem?_of_drop h.parts.2.1 hpos
    exact ⟨_, hid.trans (List.getElem?_eq_getElem hpos)⟩
  obtain ⟨-, hblank, -, hstop, -⟩ := idChar_facts (h.isIdChar_of_getElem? (Nat.le_refl _) (by omega) hc)
  by_contra hle
  -- the parenthesis of the match is none of the characters up to the opening apostrophe of the call
  have hbehind : k + 4 ≤ e := by
    have hne : ∀ {x d}, s[x]? = some d → d ≠ ')' → e ≠ x := fun hx hd heq =>
      hd (Option.some.inj (hx.symm.trans (heq ▸ hcall.stop)))
    have h₀ := hne hfirst (by decide)
    have h₁ := hne hsecond (by decide)
    have h₂ := hne hthird (by decide)
    have h₃ := hne hquote (by decide)
    omega
  have hinside := hcall.inside.le
  have hafter := hcall.after.1
  have hopening : a < k + 3 := by
    have hle := hcall.before.le_of_not_has hquote (by decide) (by omega)
    have hparenthesis := hcall.before.le_of_not_has hthird (by decide) (by omega)
    omega
  have hclosing : b ≤ k + 3 := hcall.inside.le_of_quote hquote (fun y hy hbackslash => by
    obtain rfl : y = k + 2 := by omega
    cases hthird.symm.trans hbackslash) hopening
  rcases hclosing.eq_or_lt with rfl | hclosing
  · have hnext := hcall.after.le_of_not_has hc hblank (Nat.le_refl _)
    obtain rfl : e = k + 4 := by omega
    exact hstop (Option.some.inj (hc.symm.trans hcall.stop))
  · have hle := hcall.after.le_of_not_has hquote (by decide) hclosing
    omega

/-- The end of the call is the only end there. -/
theorem head?_ends (h : Written s id k) (hword : isWordSide true (s.take k).getLast? = false) :
    (idCall.matcher.plan.ends (placeAt s k [])).head? =
      some (placeAt s (k + 4 + id.length + 2) [(1, k + 4, k + 4 + id.length)]) := by
  refine head?_eq_of_forall_mem (fun q hq => ?_) (mem_ends_idCall_iff.mpr ⟨_, _, _, h.shortCall hword, rfl⟩)
  obtain ⟨a, b, e, hcall, rfl⟩ := mem_ends_idCall_iff.mp hq
  obtain ⟨rfl, rfl, rfl⟩ := h.eq_of_shortCall hcall
  rfl

/-- The rule finds the call. -/
theorem mem_matchesIn (h : Written s id k) (hword : isWordSide true (s.take k).getLast? = false) :
    ⟨k, k + 4 + id.length + 2, [(1, k + 4, k + 4 + id.length)]⟩ ∈ idCall.matcher.matchesIn s := by
  have hmem : idCall ∈ regexes := by simp [regexes]
  have hk : k ≤ s.length := (List.getElem?_eq_some_iff.mp h.getElem?_name.1).1.le
  refine Regex.mem_matchesIn (sound_rules _ hmem) (consumes_rules _ hmem) hk (h.head?_ends hword) fun j hjk r hr => ?_
  obtain ⟨a, b, e, hcall, rfl⟩ := mem_ends_idCall_iff.mp hr
  exact h.lt_of_before hcall hjk

end Written

/-! ## Scanning -/

open Scan

/-- What stands between line feeds is scanned up to its end, or up to a carriage return there. -/
theorem exists_isLine {content : String} {index : Nat} {front post : List Char} {c : Char} (hlast : front.getLast? = some c)
    (hc : c ≠ '\r') (h : Text.IsPiece '\n' index (front ++ post) content.toList) :
    ∃ post', IsLine content (index + 1) (front ++ post') := by
  by_cases hreturn : (front ++ post).getLast? = some '\r'
  · rw [List.getLast?_append, hlast] at hreturn
    cases hpost : post.getLast? with
    | none =>
      rw [hpost] at hreturn
      exact absurd (Option.some.inj hreturn) hc
    | some d =>
      rw [hpost] at hreturn
      obtain rfl := Option.some.inj hreturn
      obtain ⟨post', rfl⟩ := List.getLast?_eq_some_iff.mp hpost
      exact ⟨post', index, _, rfl, h, .inl (List.append_assoc ..).symm⟩
  · exact ⟨post, index, _, rfl, h, .inr ⟨rfl, hreturn⟩⟩

/-- The occurrence of an id in some code, which stands in a line after a number of characters. -/
def idOccurrence (file : String) (number before : Nat) (id code : List Char) : FileOccurrence where
  id := String.ofList id
  occurrence := {
    position := file ++ ":" ++ toString number ++ ":" ++ toString before
    code := String.ofList code
    keys := none }
  line := number
  column := before + 1

/-- What a match of a rule for ids comes to, whose only group is not empty. -/
theorem occurrence?_eq {file : String} {number start stop : Nat} (hnonempty : id ≠ []) (hid : slice s a b = id) :
    Sighting.occurrence? ⟨file, number, s, .id, ⟨start, stop, [(1, a, b)]⟩⟩ =
      some (idOccurrence file number start id (slice s start stop)) := by
  have hspan : (Match.mk start stop [(1, a, b)]).span? 1 = some (a, b) := rfl
  have hisEmpty : id.isEmpty = false := List.isEmpty_eq_false_iff.mpr hnonempty
  simp only [Sighting.occurrence?, Sighting.finding?, findingOf?, hspan, hid, hisEmpty, Bool.false_eq_true, if_false,
    Option.bind_some, Finding.occurrence?]
  rfl

/-- Where a call is written, its occurrence is recorded. -/
theorem idOccurrence_mem_occurrencesIn {file content : String} {number : Nat} (hline : IsLine content number s)
    (h : Written s id k) (hword : isWordSide true (s.take k).getLast? = false) :
    idOccurrence file number k id (shortCall id) ∈ occurrencesIn rules file content := by
  have hnumber := hline
  obtain ⟨index, -, rfl, -⟩ := hnumber
  have hcode : slice s k (k + 4 + id.length + 2) = shortCall id := by
    have hlength : k + 4 + id.length + 2 = k + (shortCall id).length := by
      rw [shortCall, List.length_append, List.length_append]
      change _ = k + (4 + id.length + 2)
      omega
    rw [hlength, slice_of_drop h.call]
  refine List.mem_filterMap.mpr ⟨_, ?_, hcode ▸ occurrence?_eq h.nonempty (slice_of_drop h.parts.2.1)⟩
  simp only [sightingsIn, List.mem_flatMap, List.mem_map]
  exact ⟨(s, index), mem_zipIdx_linesOf_iff.mpr hline, ⟨idCall.matcher, .id⟩, by simp [rules], _, h.mem_matchesIn hword, rfl⟩

/-- No short call with an id is missed: whatever stands around it in its line, if no word character stands right before it, a scan
with the standard rules records it at its line and column. -/
theorem scanText_shortCall {content : String} {index : Nat} {pre id post : List Char}
    (hline : Text.IsPiece '\n' index (pre ++ shortCall id ++ post) content.toList) (hid : id ≠ [] ∧ ∀ c ∈ id, isIdChar c = true)
    (hpre : ∀ c, pre.getLast? = some c → Unicode.isWordChar c = false) (result : ScanResult) (file : String) :
    ∃ rules, Pattern.compileAll Pattern.standard = .ok rules ∧
      let after := (scanText rules result file content).value
      let o := idOccurrence file (index + 1) pre.length id (shortCall id)
      (∃ recorded, after.files.listAt file = result.files.listAt file ++ recorded ∧ o ∈ recorded) ∧
      ∃ recorded, after.messages.listAt o.id = result.messages.listAt o.id ++ recorded ∧ o.occurrence ∈ recorded := by
  refine ⟨rules, compileAll_standard, ?_⟩
  intro after o
  have hmem : o ∈ occurrencesIn rules file content := by
    have hlast : (pre ++ shortCall id).getLast? = some ')' := by
      rw [shortCall, List.getLast?_append, List.getLast?_append]
      rfl
    obtain ⟨post', hscanned⟩ := exists_isLine hlast (by decide) hline
    have hdrop : (pre ++ shortCall id ++ post').drop pre.length = shortCall id ++ post' := by
      rw [List.append_assoc, List.drop_left]
    have htake : (pre ++ shortCall id ++ post').take pre.length = pre := by
      rw [List.append_assoc, List.take_left]
    refine idOccurrence_mem_occurrencesIn hscanned ⟨hid.1, hid.2, hdrop ▸ List.prefix_append ..⟩ ?_
    rw [htake]
    cases hlast : pre.getLast? with
    | none => rfl
    | some c => exact hpre c hlast
  have hafter : after = addFile result file (findings rules file content) := rfl
  refine ⟨⟨(occurrencesIn rules file content).mergeSort precedes, ?_, (List.mergeSort_perm ..).mem_iff.mpr hmem⟩,
    ((occurrencesIn rules file content).filter (·.id = o.id)).map (·.occurrence), ?_,
    List.mem_map_of_mem (List.mem_filter.mpr ⟨hmem, decide_eq_true rfl⟩)⟩
  · rw [hafter, listAt_files_addFile, occurrencesOf_findings, if_pos rfl]
  · rw [hafter, listAt_messages_addFile, occurrencesOf_findings]

/-- An apostrophe that is left open before the call does not hide it. -/
theorem scanText_shortCall_after_apostrophe : ∃ rules, Pattern.compileAll Pattern.standard = .ok rules ∧
    let after := (scanText rules empty "app.js" "a();\nb(__('open __('user.name'));").value
    let o := idOccurrence "app.js" 2 11 "user.name".toList "__('user.name')".toList
    (∃ recorded, after.files.listAt "app.js" = empty.files.listAt "app.js" ++ recorded ∧ o ∈ recorded) ∧
    ∃ recorded, after.messages.listAt o.id = empty.messages.listAt o.id ++ recorded ∧ o.occurrence ∈ recorded :=
  @scanText_shortCall "a();\nb(__('open __('user.name'));" 1 "b(__('open ".toList "user.name".toList ");".toList
    ⟨"a();\n".toList, [], by decide, by decide, .inr rfl, .inl rfl, rfl⟩ ⟨by decide, List.all_eq_true.mp (by decide)⟩
    (fun c hc => (show ' ' = c from Option.some.inj hc) ▸ by decide) empty "app.js"

end Phrasebook.Standard
