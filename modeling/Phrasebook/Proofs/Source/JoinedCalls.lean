import Phrasebook.Proofs.Source.TagsAndErrors

/-!
# Several calls in a line

A line of calls of one form, with `; ` between them. Only the rule of the form finds something in it (`occurrencesIn_line`). For
short calls and tags a match is a call, and the search goes on behind it; so it finds one call after the other (`exists_follow`). The
match of an error goes on to the last parenthesis of the line (`matchesIn_errors`); so it is the only one, and a scan records all
errors of a line exactly if there is one (`scanText_line_captured_iff`).
-/

namespace Phrasebook.Standard

open Regex Unicode Scan

/-- A rule finds nothing in a text without some character that it writes. -/
theorem matchesIn_eq_nil_of_not_mem {r : Regex} {s : List Char} {c : Char} (hr : r ∈ regexes)
    (hwrites : r.matcher.plan.writes [c] = true) (h : c ∉ s) : r.matcher.matchesIn s = [] :=
  matchesIn_eq_nil (sound_rules _ hr) (consumes_rules _ hr) hwrites fun hwritten =>
    h (hwritten.subset (List.mem_singleton_self _))

/-! ## Calls and lines -/

/-- The forms of calls that give the id as it is. -/
inductive CallForm
  | call
  | tag
  | error
  deriving DecidableEq

namespace CallForm

variable {f : CallForm} {id s : List Char} {ids : List (List Char)} {c : Char} {k : Nat}

/-- The expression of the rule for calls of the form. -/
def regex : CallForm → Regex
  | call => idCall
  | tag => Standard.tag
  | error => Standard.error

theorem regex_mem (f : CallForm) : f.regex ∈ regexes := by
  cases f <;> simp [regex, regexes]

/-- What a call begins with that its rule does not look for. -/
def lead : CallForm → List Char
  | call | tag => []
  | error => "new ".toList

/-- What stands before the id. -/
def opening : CallForm → List Char
  | call => "__('".toList
  | tag => "<FormattedMessage id=\"".toList
  | error => "Meteor.Error(400, '".toList

/-- What stands after the id. -/
def closing : CallForm → List Char
  | call | error => "')".toList
  | tag => "\" />".toList

/-- The code of a call with an id. -/
def code (f : CallForm) (id : List Char) : List Char := f.opening ++ id ++ f.closing

/-- A call with an id. -/
def text (f : CallForm) (id : List Char) : List Char := f.lead ++ f.code id

/-- The line of calls with some ids. -/
def line (f : CallForm) (ids : List (List Char)) : List Char := List.intercalate [';', ' '] (ids.map f.text)

theorem line_singleton : f.line [id] = f.text id := List.intercalate_singleton

theorem line_cons (h : ids ≠ []) : f.line (id :: ids) = f.text id ++ [';', ' '] ++ f.line ids := by
  obtain ⟨id', ids, rfl⟩ := List.exists_cons_of_ne_nil h
  exact List.intercalate_cons_cons

theorem head?_line (h : ids ≠ []) : (f.line ids).head? = (f.lead ++ f.opening).head? := by
  have htext : ∀ id t, (f.text id ++ t).head? = (f.lead ++ f.opening).head? := fun id t => by
    rw [text, code, List.append_assoc, List.append_assoc, List.append_assoc, ← List.append_assoc,
      List.head?_append_of_ne_nil _ (by cases f <;> decide)]
  obtain ⟨id, ids, rfl⟩ := List.exists_cons_of_ne_nil h
  by_cases hne : ids = []
  · rw [hne, line_singleton, ← List.append_nil (f.text id), htext]
  · rw [line_cons hne, List.append_assoc, htext]

theorem getLast?_line (h : ids ≠ []) : (f.line ids).getLast? = f.closing.getLast? := by
  induction ids with
  | nil => exact absurd rfl h
  | cons id ids ih =>
    by_cases hne : ids = []
    · rw [hne, line_singleton, text, code, ← List.append_assoc, List.getLast?_append_of_ne_nil _ (by cases f <;> decide)]
    · have hline : f.line ids ≠ [] := fun hnil => by
        have hlast := ih hne
        rw [hnil] at hlast
        cases f <;> cases hlast
      rw [line_cons hne, List.getLast?_append_of_ne_nil _ hline, ih hne]

/-- A line begins with the first call. -/
theorem text_isPrefix_line (id : List Char) (ids : List (List Char)) : f.text id <+: f.line (id :: ids) := by
  by_cases hne : ids = []
  · rw [hne, line_singleton]
  · rw [line_cons hne, List.append_assoc]
    exact List.prefix_append ..

/-- What holds of the characters around the ids and of those of ids holds of all characters of a line. -/
theorem forall_mem_line {P : Char → Prop} (hform : ∀ c ∈ f.lead ++ f.opening ++ f.closing ++ [';', ' '], P c)
    (hname : ∀ c, isNameChar c = true → P c) (hids : ∀ id ∈ ids, IsName id) : ∀ c ∈ f.line ids, P c := by
  simp only [List.mem_append] at hform
  induction ids with
  | nil => exact nofun
  | cons id ids ih =>
    obtain ⟨hid, hids⟩ := List.forall_mem_cons.mp hids
    have htext : ∀ c ∈ f.text id, P c := by
      simp only [text, code, List.mem_append]
      rintro c (hc | (hc | hc) | hc)
      · exact hform c (.inl (.inl (.inl hc)))
      · exact hform c (.inl (.inl (.inr hc)))
      · exact hname c (hid.nameChars c hc)
      · exact hform c (.inl (.inr hc))
    by_cases hne : ids = []
    · rw [hne, line_singleton]
      exact htext
    · rw [line_cons hne]
      simp only [List.mem_append]
      rintro c ((hc | hc) | hc)
      · exact htext c hc
      · exact hform c (.inr hc)
      · exact ih hids c hc

/-- A character that stands neither around the ids nor in ids does not stand in the line. -/
theorem not_mem_line (hform : c ∉ f.lead ++ f.opening ++ f.closing ++ [';', ' ']) (hname : isNameChar c = false)
    (hids : ∀ id ∈ ids, IsName id) : c ∉ f.line ids := fun hc =>
  forall_mem_line (P := (· ≠ c)) (fun _ hd heq => hform (heq ▸ hd)) (fun _ hd => ne_of_isNameChar hd hname) hids c hc rfl

/-! ## The other rules -/

/-- In a line of errors each opening parenthesis stands behind an `r`. -/
theorem isChain_line_error (hids : ∀ id ∈ ids, IsName id) : (error.line ids).IsChain fun a b => b = '(' → a = 'r' := by
  have happend : ∀ {s t : List Char}, s.IsChain (fun a b => b = '(' → a = 'r') → t.IsChain (fun a b => b = '(' → a = 'r') →
      '(' ∉ t.head? → (s ++ t).IsChain fun a b => b = '(' → a = 'r' := fun hs ht hhead =>
    List.isChain_append.mpr ⟨hs, ht, fun a _ b hb heq => absurd (heq ▸ hb) hhead⟩
  have htext : ∀ {id}, IsName id → (error.text id).IsChain fun a b => b = '(' → a = 'r' := fun {id} hid => by
    have hne : ∀ c ∈ id, c ≠ '(' := fun c hc => ne_of_isNameChar (hid.nameChars c hc) (by decide)
    have hchain : id.IsChain fun a b => b = '(' → a = 'r' :=
      (List.pairwise_of_forall_mem_list fun _ _ b hb heq => absurd heq (hne b hb)).isChain
    rw [text, code, ← List.append_assoc, ← List.append_assoc]
    exact happend (happend (by decide) hchain fun hc => hne _ (List.mem_of_head? hc) rfl) (by decide) (by decide)
  induction ids with
  | nil => exact .nil
  | cons id ids ih =>
    obtain ⟨hid, hids⟩ := List.forall_mem_cons.mp hids
    by_cases hne : ids = []
    · rw [hne, line_singleton]
      exact htext hid
    · rw [line_cons hne]
      have hhead : '(' ∉ (error.line ids).head? := by
        rw [head?_line hne]
        decide
      exact happend (happend (htext hid) (by decide) (by decide)) (ih hids) hhead

theorem linesOf_line (hids : ∀ id ∈ ids, IsName id) : linesOf (String.ofList (f.line ids)) = [f.line ids] := by
  have hfeed : '\n' ∉ f.line ids := not_mem_line (by cases f <;> decide) (by decide) hids
  have hreturn : '\r' ∉ f.line ids := not_mem_line (by cases f <;> decide) (by decide) hids
  rw [linesOf, String.toList_ofList, Text.splitAt_of_not_mem hfeed, List.map_singleton,
    if_neg fun h => hreturn (List.mem_of_getLast? h)]

/-- What a match in the only line of a file comes to. -/
def occurrenceIn? (file : String) (line : List Char) (found : Match) : Option FileOccurrence :=
  Sighting.occurrence? ⟨file, 1, line, .id, found⟩

/-- Only the rule of the form finds something in a line of calls. -/
theorem occurrencesIn_line (hids : ∀ id ∈ ids, IsName id) (file : String) :
    occurrencesIn rules file (String.ofList (f.line ids)) =
      (f.regex.matcher.matchesIn (f.line ids)).filterMap (occurrenceIn? file (f.line ids)) := by
  have hbrace : '{' ∉ f.line ids := not_mem_line (by cases f <;> decide) (by decide) hids
  have hlong : (descriptorCall "formatMessage").matcher.matchesIn (f.line ids) = [] :=
    matchesIn_eq_nil_of_not_mem (by simp [regexes]) (by decide) hbrace
  have hshort : (descriptorCall "__").matcher.matchesIn (f.line ids) = [] :=
    matchesIn_eq_nil_of_not_mem (by simp [regexes]) (by decide) hbrace
  have hcall : f ≠ .call → idCall.matcher.matchesIn (f.line ids) = [] := fun hf => by
    cases f with
    | call => exact absurd rfl hf
    | tag =>
      exact matchesIn_eq_nil_of_not_mem (c := '(') (regex_mem .call) (by decide) (not_mem_line (by decide) (by decide) hids)
    | error =>
      refine matchesIn_eq_nil (t := ['_', '(']) (sound_rules _ (regex_mem .call)) (consumes_rules _ (regex_mem .call)) (by decide)
        fun hwritten => ?_
      obtain ⟨u, v, h⟩ := hwritten
      have hchain := isChain_line_error hids
      rw [← h, List.isChain_append, List.isChain_append] at hchain
      exact absurd hchain.1.2.1 (by decide)
  have htag : f ≠ .tag → Standard.tag.matcher.matchesIn (f.line ids) = [] := fun hf =>
    matchesIn_eq_nil_of_not_mem (c := '<') (regex_mem .tag) (by decide)
      (not_mem_line (by cases f <;> first | decide | exact absurd rfl hf) (by decide) hids)
  have herror : f ≠ .error → Standard.error.matcher.matchesIn (f.line ids) = [] := fun hf =>
    matchesIn_eq_nil_of_not_mem (c := ',') (regex_mem .error) (by decide)
      (not_mem_line (by cases f <;> first | decide | exact absurd rfl hf) (by decide) hids)
  have hsightings : sightingsIn rules file (String.ofList (f.line ids)) =
      (f.regex.matcher.matchesIn (f.line ids)).map fun found => ⟨file, 1, f.line ids, .id, found⟩ := by
    rw [sightingsIn, linesOf_line hids]
    cases f <;> simp [rules, regex, hlong, hshort, hcall, htag, herror]
  rw [occurrencesIn, hsightings, List.filterMap_map]
  rfl

/-! ## What is recorded -/

/-- The occurrences are those of the calls of a line from a number of characters on: one for each call, in the order of the calls,
each with the id of its call and with code that lies within it. -/
inductive Captured (f : CallForm) : Nat → List (List Char) → List FileOccurrence → Prop
  | none {before : Nat} : Captured f before [] []
  | next {before : Nat} {id : List Char} {ids : List (List Char)} {o : FileOccurrence} {recorded : List FileOccurrence}
    (id_eq : o.id = String.ofList id) (line_eq : o.line = 1)
    (within : ∃ front back, f.text id = front ++ o.occurrence.code.toList ++ back ∧ o.column = before + front.length + 1)
    (rest : Captured f (before + (f.text id).length + 2) ids recorded) : Captured f before (id :: ids) (o :: recorded)

variable {recorded : List FileOccurrence} {file : String}

theorem Captured.le (h : f.Captured k ids recorded) : ∀ o ∈ recorded, o.line = 1 ∧ k + 1 ≤ o.column := by
  induction h with
  | none => exact nofun
  | next _ hline hwithin _ ih =>
    obtain ⟨front, back, -, hcolumn⟩ := hwithin
    rintro o (_ | ⟨_, ho⟩)
    · exact ⟨hline, by omega⟩
    · exact ⟨(ih o ho).1, by have := (ih o ho).2; omega⟩

/-- The occurrences of the calls of a line are in the order of their places. -/
theorem Captured.mergeSort_eq (h : f.Captured k ids recorded) : recorded.mergeSort precedes = recorded := by
  refine List.mergeSort_of_pairwise ?_
  induction h with
  | none => exact .nil
  | @next before id ids o recorded _ hline hwithin hrest ih =>
    refine .cons (fun o' ho => ?_) ih
    obtain ⟨front, back, htext, hcolumn⟩ := hwithin
    obtain ⟨hline', hle⟩ := hrest.le o' ho
    have hlength : front.length ≤ (f.text id).length := by
      rw [htext, List.append_assoc, List.length_append]
      omega
    have hcolumns : o.column ≤ o'.column := by omega
    simp only [precedes, hline, hline', hcolumns, Nat.lt_irrefl, decide_false, beq_self_eq_true, decide_true, Bool.and_self,
      Bool.or_true]

/-! ## Calls one after the other -/

/-- The rules for calls and tags match where the text of one begins. -/
theorem getElem?_of_mem_ends {q : Regex.Place} (hf : f ≠ .error) (hbrace : '{' ∉ s)
    (h : q ∈ f.regex.matcher.plan.ends (placeAt s k [])) : s[k]? = f.opening.head? := by
  cases f with
  | call =>
    obtain ⟨a, b, e, hcall, -⟩ := mem_ends_idCall_iff.mp h
    exact getElem?_of_drop (n := 0) hcall.name (by decide)
  | tag =>
    obtain ⟨a, b, e, htag, -⟩ := (mem_ends_tag_iff hbrace).mp h
    exact getElem?_of_drop (n := 0) htag.name (by decide)
  | error => exact absurd rfl hf

theorem length_code : (f.code id).length = f.opening.length + id.length + f.closing.length := by
  rw [code, List.length_append, List.length_append]

theorem le_length_of_code (hid : IsName id) (h : f.code id <+: s.drop k) : k ≤ s.length :=
  (Nat.le_add_right ..).trans (le_length_of_drop (parts_of_drop h).2.1 hid.nonempty)

theorem text_eq_code (hf : f ≠ .error) : f.text id = f.code id := by
  cases f with
  | call | tag => rfl
  | error => exact absurd rfl hf

/-- Where a call or a tag is written, the match is the call. -/
theorem head?_ends (hf : f ≠ .error) (hid : IsName id) (hbrace : '{' ∉ s) (hword : isWordSide true (s.take k).getLast? = false)
    (h : f.code id <+: s.drop k) : (f.regex.matcher.plan.ends (placeAt s k [])).head? =
      some (placeAt s (k + (f.code id).length) [(1, k + f.opening.length, k + f.opening.length + id.length)]) := by
  rw [length_code, ← Nat.add_assoc, ← Nat.add_assoc]
  cases f with
  | call => exact Written.head?_ends ⟨hid.nonempty, fun c hc => isIdChar_of_isNameChar (hid.nameChars c hc), h⟩ hword
  | tag =>
    have hlength : (opening .tag).length = 22 := by decide
    rw [hlength]
    exact ends_tag hbrace hid h
  | error => exact absurd rfl hf

/-- What the match of a call comes to, whose code is the match. -/
theorem occurrenceIn?_code (hid : IsName id) (h : f.code id <+: s.drop k) : occurrenceIn? file s
    ⟨k, k + (f.code id).length, [(1, k + f.opening.length, k + f.opening.length + id.length)]⟩ =
      some (idOccurrence file 1 k id (f.code id)) := by
  rw [occurrenceIn?, occurrence?_eq hid.nonempty (slice_of_drop (parts_of_drop h).2.1), slice_of_drop h]

/-- Where a call or a tag is written, it is the next match, and what is recorded goes on behind it. -/
theorem exists_follow_cons (hf : f ≠ .error) (hid : IsName id) (hbrace : '{' ∉ s)
    (hword : isWordSide true (s.take k).getLast? = false) (hcode : f.code id <+: s.drop k) {found : List Match}
    (hfollow : Follow f.regex.matcher.plan s (k + (f.code id).length) found)
    (hcaptured : f.Captured (k + (f.text id).length + 2) ids (found.filterMap (occurrenceIn? file s))) :
    ∃ found, Follow f.regex.matcher.plan s k found ∧ f.Captured k (id :: ids) (found.filterMap (occurrenceIn? file s)) := by
  refine ⟨_, .here (le_length_of_code hid hcode) (head?_ends hf hid hbrace hword hcode) hfollow, ?_⟩
  rw [List.filterMap_cons_some (occurrenceIn?_code hid hcode)]
  refine .next rfl rfl ⟨[], [], ?_, rfl⟩ hcaptured
  rw [text_eq_code hf, idOccurrence, String.toList_ofList, List.append_nil, List.nil_append]

/-- The rules for calls and tags find one call of a line after the other. -/
theorem exists_follow (hf : f ≠ .error) (hbrace : '{' ∉ s) (hids : ∀ id ∈ ids, IsName id) (hne : ids ≠ [])
    (h : s.drop k = f.line ids) (hword : isWordSide true (s.take k).getLast? = false) (file : String) :
    ∃ found, Follow f.regex.matcher.plan s k found ∧ f.Captured k ids (found.filterMap (occurrenceIn? file s)) := by
  induction ids generalizing k with
  | nil => exact absurd rfl hne
  | cons id ids ih =>
    obtain ⟨hid, hids⟩ := List.forall_mem_cons.mp hids
    have hcode : f.code id <+: s.drop k := by
      rw [h, ← text_eq_code hf]
      exact text_isPrefix_line id ids
    by_cases hne : ids = []
    · subst hne
      have hend : s.length = k + (f.code id).length := by
        rw [line_singleton, text_eq_code hf] at h
        have hlength := congrArg List.length h
        have hk := le_length_of_code hid hcode
        rw [List.length_drop] at hlength
        omega
      exact exists_follow_cons hf hid hbrace hword hcode (hend ▸ Follow.end (consumes_rules _ f.regex_mem)) .none
    · rw [line_cons hne, text_eq_code hf] at h
      -- between two calls stand a semicolon and a blank, where no match begins
      have hbetween : s.drop (k + (f.code id).length) = [';', ' '] ++ f.line ids := drop_of_drop (h.trans (List.append_assoc ..))
      have hmarks : [';', ' '] <+: s.drop (k + (f.code id).length) := hbetween ▸ List.prefix_append ..
      have hsemicolon : s[k + (f.code id).length]? = some ';' := getElem?_of_drop (n := 0) hmarks (by decide)
      have hblank : s[k + (f.code id).length + 1]? = some ' ' := getElem?_of_drop (n := 1) hmarks (by decide)
      have hrest : s.drop (k + (f.code id).length + 2) = f.line ids := drop_of_drop hbetween
      have hnone : ∀ {j c}, s[j]? = some c → f.opening.head? ≠ some c → f.regex.matcher.plan.ends (placeAt s j []) = [] :=
        fun hc hne => List.eq_nil_iff_forall_not_mem.mpr fun q hq => hne ((getElem?_of_mem_ends hf hbrace hq).symm.trans hc)
      obtain ⟨found, hfollow, hcaptured⟩ := ih hids hne hrest (by rw [getLast?_take_succ hblank]; rfl)
      refine exists_follow_cons hf hid hbrace hword hcode (hfollow.of_le (Nat.le_add_right _ 2) fun n hle hlt => ?_)
        (text_eq_code hf ▸ hcaptured)
      obtain rfl | rfl : n = k + (f.code id).length ∨ n = k + (f.code id).length + 1 := by omega
      · exact hnone hsemicolon (by cases f <;> decide)
      · exact hnone hblank (by cases f <;> decide)

/-! ## Errors one after the other -/

theorem errorText_of_line (id : List Char) (ids : List (List Char)) :
    "new ".toList <+: (error.line (id :: ids)).drop 0 ∧ errorText id <+: (error.line (id :: ids)).drop 4 := by
  have hlength : "new ".toList.length = 4 := by decide
  have htext : "new ".toList ++ errorText id <+: (error.line (id :: ids)).drop 0 := text_isPrefix_line (f := error) id ids
  rwa [append_drop_iff, hlength] at htext

/-- The rule for errors has one match in a line of errors, from the first of them to the end of the line. -/
theorem matchesIn_errors (hids : ∀ name ∈ id :: ids, IsName name) : Standard.error.matcher.matchesIn (error.line (id :: ids)) =
    [⟨4, (error.line (id :: ids)).length, [(1, 23, 23 + id.length)]⟩] := by
  have hid := (List.forall_mem_cons.mp hids).1
  have hmem : Standard.error ∈ regexes := regex_mem .error
  have hfeed : '\n' ∉ error.line (id :: ids) := not_mem_line (by decide) (by decide) hids
  have hlast : (error.line (id :: ids)).getLast? = some ')' := getLast?_line (List.cons_ne_nil id ids)
  obtain ⟨hlead, hcode⟩ := errorText_of_line id ids
  generalize error.line (id :: ids) = s at *
  -- no match begins within `new `
  have hnone : ∀ n, 0 ≤ n → n < 4 → Standard.error.matcher.plan.ends (placeAt s n []) = [] := by
    intro n _ hn
    refine List.eq_nil_iff_forall_not_mem.mpr fun q hq => ?_
    rw [plan_error] at hq
    have hname := getElem?_of_drop (n := 0) (mem_ends_text_then_iff.mp hq).1 (by decide)
    have hc := getElem?_of_drop hlead hn
    rw [Nat.zero_add] at hc
    have hne : ∀ n < 4, "new ".toList[n]? ≠ "Meteor.Error(".toList[0]? := by decide
    exact hne n hn (hc.symm.trans hname)
  have hlength : 4 ≤ s.length := le_length_of_code (f := error) hid hcode
  have hfollow : Follow Standard.error.matcher.plan s 4 [⟨4, s.length, [(1, 23, 23 + id.length)]⟩] :=
    .here hlength (ends_error hfeed hlast hid hcode) (.end (consumes_rules _ hmem))
  exact matchesIn_eq_of_follow (sound_rules _ hmem) (consumes_rules _ hmem) (hfollow.of_le (Nat.zero_le 4) hnone)

/-- In a line of errors one occurrence is recorded: the id is the first one, and the code is all of the line behind `new `. -/
theorem occurrencesIn_errors (hids : ∀ name ∈ id :: ids, IsName name) (file : String) :
    occurrencesIn rules file (String.ofList (error.line (id :: ids))) =
      [idOccurrence file 1 4 id ((error.line (id :: ids)).drop 4)] := by
  have hid := (List.forall_mem_cons.mp hids).1
  have hcode := (errorText_of_line id ids).2
  have hlength : "Meteor.Error(400, '".toList.length = 19 := by decide
  rw [occurrencesIn_line hids, regex, matchesIn_errors hids]
  generalize error.line (id :: ids) = s at *
  have hslice : slice s 4 s.length = s.drop 4 := List.take_of_length_le (Nat.le_of_eq List.length_drop)
  have hsliceId : slice s 23 (23 + id.length) = id := by
    have hidAt := (parts_of_drop hcode).2.1
    rw [hlength] at hidAt
    exact slice_of_drop hidAt
  have hoccurrence : occurrenceIn? file s ⟨4, s.length, [(1, 23, 23 + id.length)]⟩ = some (idOccurrence file 1 4 id (s.drop 4)) :=
    hslice ▸ occurrence?_eq hid.nonempty hsliceId
  rw [List.filterMap_cons_some hoccurrence, List.filterMap_nil]

theorem Captured.length_eq (h : f.Captured k ids recorded) : recorded.length = ids.length := by
  induction h with
  | none => rfl
  | next _ _ _ _ ih => rw [List.length_cons, List.length_cons, ih]

/-- Exactly the error that is alone in its line is captured. -/
theorem captured_errors_iff : error.Captured 0 (id :: ids) [idOccurrence file 1 4 id ((error.line (id :: ids)).drop 4)] ↔
    (id :: ids).length = 1 := by
  constructor
  · intro h
    exact h.length_eq.symm
  · intro hlength
    obtain rfl : ids = [] := List.length_eq_zero_iff.mp (Nat.succ.inj hlength)
    refine .next rfl rfl ⟨lead .error, [], ?_, rfl⟩ .none
    have hlead : (error.text id).drop (lead .error).length = error.code id := List.drop_left
    have hlength : (lead .error).length = 4 := by decide
    rw [hlength] at hlead
    rw [idOccurrence, String.toList_ofList, line_singleton, hlead, List.append_nil, text]

end CallForm

/-! ## Scanning a line of calls -/

variable {f : CallForm} {ids : List (List Char)}

theorem exists_occurrencesIn_line (hne : ids ≠ []) (hids : ∀ id ∈ ids, IsName id) (file : String) :
    ∃ recorded, occurrencesIn rules file (String.ofList (f.line ids)) = recorded ∧ recorded.mergeSort precedes = recorded ∧
      (f.Captured 0 ids recorded ↔ f ≠ .error ∨ ids.length = 1) := by
  by_cases hf : f = .error
  · obtain ⟨id, ids, rfl⟩ := List.exists_cons_of_ne_nil hne
    subst hf
    refine ⟨_, CallForm.occurrencesIn_errors hids file, List.mergeSort_singleton _, ?_⟩
    rw [CallForm.captured_errors_iff]
    exact ⟨.inr, fun h => h.resolve_left fun h => h rfl⟩
  · have hbrace : '{' ∉ f.line ids := CallForm.not_mem_line (by cases f <;> decide) (by decide) hids
    obtain ⟨found, hfollow, hcaptured⟩ := CallForm.exists_follow hf hbrace hids hne (k := 0) rfl rfl file
    have hmatches := matchesIn_eq_of_follow (sound_rules _ f.regex_mem) (consumes_rules _ f.regex_mem) hfollow
    refine ⟨_, CallForm.occurrencesIn_line hids file, ?_, ?_⟩ <;> rw [hmatches]
    · exact hcaptured.mergeSort_eq
    · exact ⟨fun _ => .inl hf, fun _ => hcaptured⟩

/-- All calls of a line are recorded, for short calls and tags, whatever their ids and how many they are; of errors exactly if there
is only one. What is recorded of the line is all that the scan adds under its file and, message by message, under its messages. -/
theorem scanText_line_captured_iff (hne : ids ≠ []) (hids : ∀ id ∈ ids, IsName id) (result : ScanResult) (file : String) :
    ∃ rules, Pattern.compileAll Pattern.standard = .ok rules ∧
      let after := (scanText rules result file (String.ofList (f.line ids))).value
      ∃ recorded,
        (∀ name, after.files.listAt name = result.files.listAt name ++ if name = file then recorded else []) ∧
        (∀ id, after.messages.listAt id = result.messages.listAt id ++ (recorded.filter (·.id = id)).map (·.occurrence)) ∧
        (f.Captured 0 ids recorded ↔ f ≠ .error ∨ ids.length = 1) := by
  refine ⟨rules, compileAll_standard, ?_⟩
  intro after
  obtain ⟨recorded, hrecorded, hsorted, hcaptured⟩ := exists_occurrencesIn_line (f := f) hne hids file
  have hafter : after = addFile result file (findings rules file (String.ofList (f.line ids))) := rfl
  refine ⟨recorded, fun name => ?_, fun id => ?_, hcaptured⟩
  · rw [hafter, listAt_files_addFile, occurrencesOf_findings, hrecorded, hsorted]
  · rw [hafter, listAt_messages_addFile, occurrencesOf_findings, hrecorded]

/-- Two tags in a line. -/
theorem scanText_line_captured_tags : ∃ rules, Pattern.compileAll Pattern.standard = .ok rules ∧ ∃ recorded,
    (scanText rules empty "a.jsx" "<FormattedMessage id=\"a\" />; <FormattedMessage id=\"b.c\" />").value.files.listAt "a.jsx" =
      recorded ∧ CallForm.tag.Captured 0 ["a".toList, "b.c".toList] recorded := by
  have hcontent : String.ofList (CallForm.tag.line ["a".toList, "b.c".toList]) =
      "<FormattedMessage id=\"a\" />; <FormattedMessage id=\"b.c\" />" := by decide
  have hids : ∀ id ∈ ["a".toList, "b.c".toList], IsName id := by
    simp only [List.forall_mem_cons]
    exact ⟨⟨by decide, List.all_eq_true.mp (by decide)⟩, ⟨by decide, List.all_eq_true.mp (by decide)⟩, nofun⟩
  obtain ⟨rules, hrules, recorded, hfiles, -, hcaptured⟩ :=
    scanText_line_captured_iff (f := .tag) (by decide : ["a".toList, "b.c".toList] ≠ []) hids empty "a.jsx"
  refine ⟨rules, hrules, recorded, ?_, hcaptured.mpr (.inl nofun)⟩
  rw [← hcontent, hfiles, if_pos rfl]
  rfl

/-- Two errors in a line: one occurrence is recorded, and its code is all of both. -/
theorem scanText_line_captured_false : ∃ rules, Pattern.compileAll Pattern.standard = .ok rules ∧
    let recorded :=
      (scanText rules empty "a.js" "new Meteor.Error(400, 'a'); new Meteor.Error(400, 'b')").value.files.listAt "a.js"
    recorded = [idOccurrence "a.js" 1 4 "a".toList "Meteor.Error(400, 'a'); new Meteor.Error(400, 'b')".toList] ∧
      ¬ CallForm.error.Captured 0 ["a".toList, "b".toList] recorded := by
  refine ⟨rules, compileAll_standard, ?_⟩
  have hcontent : String.ofList (CallForm.error.line ["a".toList, "b".toList]) =
      "new Meteor.Error(400, 'a'); new Meteor.Error(400, 'b')" := by decide
  have hcode : (CallForm.error.line ["a".toList, "b".toList]).drop 4 =
      "Meteor.Error(400, 'a'); new Meteor.Error(400, 'b')".toList := by decide
  have hids : ∀ id ∈ ["a".toList, "b".toList], IsName id := by
    simp only [List.forall_mem_cons]
    exact ⟨⟨by decide, List.all_eq_true.mp (by decide)⟩, ⟨by decide, List.all_eq_true.mp (by decide)⟩, nofun⟩
  have hrecorded := CallForm.occurrencesIn_errors hids "a.js"
  rw [hcontent, hcode] at hrecorded
  intro recorded
  have heq : recorded = [idOccurrence "a.js" 1 4 "a".toList "Meteor.Error(400, 'a'); new Meteor.Error(400, 'b')".toList] := by
    change (addFile empty "a.js" (findings rules "a.js" _)).files.listAt "a.js" = _
    rw [listAt_files_addFile, occurrencesOf_findings, hrecorded, if_pos rfl, List.mergeSort_singleton]
    rfl
  refine ⟨heq, fun hcaptured => ?_⟩
  have hlength := hcaptured.length_eq
  rw [heq] at hlength
  cases hlength

end Phrasebook.Standard
