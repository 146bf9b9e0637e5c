import Phrasebook.Template.Recover

/-!
# Templates between their names

A template is its texts between the `{name}` in it: `segments` cuts it, `fillNames` puts something for every name. A template
that is written from texts without an opening brace and from names is cut into just these (`segments_fillWith`).
-/

namespace Phrasebook.Template

open Text

variable {n : String} {c : Char} {rest s : List Char} {f : String → List Char}

/-- The first text, and then for every name what `f` gives for it and the text after it. -/
def Segments.fillWith (f : String → List Char) (segments : Segments) : List Char :=
  segments.first ++ segments.named.flatMap fun (name, text) => f name ++ text

/-- A template with what `f` gives for each of its names. References to other messages are text. -/
def fillNames (f : String → List Char) (s : List Char) : List Char := (segments s).fillWith f

/-- What stands for a name: its value, or the name as it is written where there is none. -/
def shown (values : Variables) (name : String) : List Char :=
  match values.get? name with
  | some value => value.display.toList
  | none => bracedName name

/-! ## Names between braces -/

/-- A text that makes a placeholder when it stands between braces. -/
def IsName (n : String) : Prop := n.toList ≠ [] ∧ ∀ c ∈ n.toList, isNameChar c = true

instance (n : String) : Decidable (IsName n) := @instDecidableAnd _ _ _ (List.decidableBAll _ _)

/-- A character that no name has does not stand in a name. -/
theorem IsName.not_mem (hn : IsName n) (hc : isNameChar c = false) : c ∉ n.toList := by
  intro hmem
  rw [hn.2 c hmem] at hc
  cases hc

/-- A name and the brace that closes it are read. -/
theorem readName?_append (hn : IsName n) (rest : List Char) :
    ∃ name, readName? (n.toList ++ '}' :: rest) = some name ∧ name.value = n ∧ name.rest = rest := by
  have htake : (n.toList ++ '}' :: rest).takeWhile isNameChar = n.toList := by
    rw [List.takeWhile_append_of_pos hn.2, List.takeWhile_cons_of_neg (by decide), List.append_nil]
  have hdrop : (n.toList ++ '}' :: rest).dropWhile isNameChar = '}' :: rest := by
    rw [List.dropWhile_append_of_pos hn.2, List.dropWhile_cons_of_neg (by decide)]
  obtain ⟨below, hclosed⟩ := readChar?_cons '}' hdrop
  refine ⟨(Read.ofRun isNameChar _).perhapsThen ⟨n, rest, below⟩, ?_, rfl, rfl⟩
  have hne : ((n.toList ++ '}' :: rest).takeWhile isNameChar).isEmpty = false := by
    rw [htake]
    exact List.isEmpty_eq_false_iff.mpr hn.1
  have hvalue : String.ofList ((n.toList ++ '}' :: rest).takeWhile isNameChar) = n := by
    rw [htake, String.ofList_toList]
  simp only [readName?, Read.ofRun, Option.bind_eq_bind, hclosed, Option.bind_some, hne, hvalue]
  rfl

/-- What is read as a name is one. -/
theorem isName_of_readName? {name : Read String s.length} (h : readName? s = some name) : IsName name.value := by
  simp only [readName?, Option.bind_eq_bind, Option.bind_eq_some_iff] at h
  obtain ⟨closed, -, h⟩ := h
  split at h
  · cases h
  · next hne =>
    obtain rfl := Option.some.inj h
    rw [Read.value_perhapsThen, Read.value_map]
    refine ⟨fun hnil => hne ?_, fun c hc => ?_⟩
    · rw [String.toList_ofList] at hnil
      rw [hnil]
      rfl
    · rw [String.toList_ofList] at hc
      exact List.all_eq_true.mp List.all_takeWhile c hc

/-- A name that is read behind an opening brace stands between its braces. -/
theorem eq_bracedName_of_readName? {name : Read String s.length} (h : readName? s = some name) :
    '{' :: s = bracedName name.value ++ name.rest := by
  simp [bracedName, ← eq_of_readName? h]

/-! ## Cutting and filling, one step -/

theorem segments_cons (hc : c ≠ '{') : segments (c :: rest) = (segments rest).cons c := by
  rw [segments, if_neg hc]

theorem segments_brace (h : readName? rest = none) : segments ('{' :: rest) = (segments rest).cons '{' := by
  rw [segments, if_pos rfl]
  split
  · next hname =>
    rw [h] at hname
    cases hname
  · rfl

/-- A name between braces ends the first text. -/
theorem segments_bracedName (hn : IsName n) (rest : List Char) :
    segments (bracedName n ++ rest) = ⟨[], (n, (segments rest).first) :: (segments rest).named⟩ := by
  obtain ⟨name, hname, hvalue, hrest⟩ := readName?_append hn rest
  rw [show bracedName n ++ rest = '{' :: (n.toList ++ '}' :: rest) by simp [bracedName], segments, if_pos rfl]
  split
  · next found hfound =>
    rw [hname] at hfound
    obtain rfl := Option.some.inj hfound
    rw [hvalue, hrest]
  · next hnone =>
    rw [hname] at hnone
    cases hnone

theorem Segments.fillWith_cons (c : Char) (segments : Segments) :
    (segments.cons c).fillWith f = c :: segments.fillWith f := rfl

@[simp] theorem fillNames_nil : fillNames f [] = [] := by
  rw [fillNames, segments]
  rfl

theorem fillNames_cons (hc : c ≠ '{') : fillNames f (c :: rest) = c :: fillNames f rest := by
  rw [fillNames, segments_cons hc, Segments.fillWith_cons, fillNames]

theorem fillNames_brace (h : readName? rest = none) : fillNames f ('{' :: rest) = '{' :: fillNames f rest := by
  rw [fillNames, segments_brace h, Segments.fillWith_cons, fillNames]

/-- A name between braces is replaced. -/
theorem fillNames_bracedName (hn : IsName n) (rest : List Char) :
    fillNames f (bracedName n ++ rest) = f n ++ fillNames f rest := by
  rw [fillNames, segments_bracedName hn]
  simp [Segments.fillWith, fillNames]

/-- Text without an opening brace stays as it is. -/
theorem fillNames_append (hs : '{' ∉ s) (rest : List Char) : fillNames f (s ++ rest) = s ++ fillNames f rest := by
  induction s with
  | nil => rfl
  | cons c s ih =>
    rw [List.cons_append, fillNames_cons (fun hc => hs (by simp [hc])), ih (fun h => hs (List.mem_cons_of_mem c h)),
      List.cons_append]

/-! ## Templates written from texts and names -/

/-- Text without an opening brace belongs to the first text. -/
theorem segments_append (hs : '{' ∉ s) (rest : List Char) :
    segments (s ++ rest) = ⟨s ++ (segments rest).first, (segments rest).named⟩ := by
  induction s with
  | nil => rfl
  | cons c s ih =>
    rw [List.cons_append, segments_cons (fun hc => hs (by simp [hc])), ih (fun h => hs (List.mem_cons_of_mem c h))]
    rfl

/-- A template that is written from texts without an opening brace and from names is cut into these. -/
theorem segments_fillWith (parts : Segments) (hfirst : '{' ∉ parts.first)
    (hnamed : ∀ part ∈ parts.named, IsName part.1 ∧ '{' ∉ part.2) : segments (parts.fillWith bracedName) = parts := by
  obtain ⟨first, named⟩ := parts
  simp only [Segments.fillWith] at *
  have hrest : segments (named.flatMap fun (name, text) => bracedName name ++ text) = ⟨[], named⟩ := by
    clear hfirst first
    induction named with
    | nil => rw [List.flatMap_nil, segments]
    | cons part named ih =>
      obtain ⟨name, text⟩ := part
      obtain ⟨hname, htext⟩ := hnamed (name, text) List.mem_cons_self
      rw [List.flatMap_cons, List.append_assoc, segments_bracedName hname, segments_append htext,
        ih fun part hpart => hnamed part (List.mem_cons_of_mem _ hpart), List.append_nil]
  rw [segments_append hfirst, hrest, List.append_nil]

end Phrasebook.Template
