import Phrasebook.Proofs.Text.Joining
import Phrasebook.Template.Normalize

/-!
# Normalizing a template again

A template is the text outside of its outermost braces and the groups between them (`normalizeChars_cons`,
`normalizeChars_open`, `normalizeChars_group`). Normalizing keeps this structure, so a template that has been normalized
changes once more exactly if the name in one of its groups does (`normalize_normalize_iff`).

It does for names such as `{a b c}`: the capitals of the words `b` and `c` come together in `{aBC}`, which has two words only.
-/

namespace Phrasebook.Template

open Text Unicode

variable {c : Char} {s inside after name rest : List Char} {depth : Nat}

/-! ## Braces that close -/

/-- An opening brace goes one deeper. -/
theorem closeBrace?_open : closeBrace? depth ('{' :: s) = (closeBrace? (depth + 1) s).map (consInside '{') := by
  rw [closeBrace?.eq_def]
  rfl

/-- A closing brace inside goes one up. -/
theorem closeBrace?_close : closeBrace? (depth + 1) ('}' :: s) = (closeBrace? depth s).map (consInside '}') := rfl

/-- Other characters are passed. -/
theorem closeBrace?_cons (hopen : c ≠ '{') (hclose : c ≠ '}') :
    closeBrace? depth (c :: s) = (closeBrace? depth s).map (consInside c) := by
  rw [closeBrace?.eq_def]
  simp only [if_neg hopen, if_neg hclose]

/-- A character that is not the closing brace stands inside, whatever follows. -/
theorem eq_consInside_of_map {depth' : Nat} (h : (closeBrace? depth' s).map (consInside c) = some (inside, after))
    (ih : ∀ {inside after}, closeBrace? depth' s = some (inside, after) →
      s = inside ++ '}' :: after ∧ ∀ rest, closeBrace? depth' (inside ++ '}' :: rest) = some (inside, rest)) :
    ∃ inside', inside = c :: inside' ∧ s = inside' ++ '}' :: after ∧
      ∀ rest, (closeBrace? depth' (inside' ++ '}' :: rest)).map (consInside c) = some (inside, rest) := by
  obtain ⟨⟨inside', after'⟩, hfound, heq⟩ := Option.map_eq_some_iff.mp h
  obtain ⟨rfl, rfl⟩ := Prod.mk.inj heq
  obtain ⟨hs, hrest⟩ := ih hfound
  exact ⟨inside', rfl, hs, fun rest => by rw [hrest rest]; rfl⟩

/-- What stands before the closing brace, that brace and what follows it are the text, and what follows may be replaced. By the
recursion of the search. -/
theorem closeBrace?_eq_some (h : closeBrace? depth s = some (inside, after)) :
    s = inside ++ '}' :: after ∧ ∀ rest, closeBrace? depth (inside ++ '}' :: rest) = some (inside, rest) := by
  fun_induction closeBrace? depth s generalizing inside after with
  | case1 => cases h
  | case2 depth s ih =>
    obtain ⟨inside, rfl, rfl, hrest⟩ := eq_consInside_of_map h ih
    exact ⟨rfl, fun rest => closeBrace?_open.trans (hrest rest)⟩
  | case3 s hne =>
    obtain ⟨rfl, rfl⟩ := Prod.mk.inj (Option.some.inj h)
    exact ⟨rfl, fun rest => rfl⟩
  | case4 s depth hne ih =>
    obtain ⟨inside, rfl, rfl, hrest⟩ := eq_consInside_of_map h ih
    exact ⟨rfl, fun rest => closeBrace?_close.trans (hrest rest)⟩
  | case5 depth c s hopen hclose ih =>
    obtain ⟨inside, rfl, rfl, hrest⟩ := eq_consInside_of_map h ih
    exact ⟨rfl, fun rest => (closeBrace?_cons hopen hclose).trans (hrest rest)⟩

/-- Each brace of the text is opened and closed in it. -/
inductive Balanced : List Char → Prop where
  | nil : Balanced []
  | cons {c : Char} {s : List Char} (hopen : c ≠ '{') (hclose : c ≠ '}') (h : Balanced s) : Balanced (c :: s)
  | group {inside s : List Char} (hinside : Balanced inside) (h : Balanced s) : Balanced ('{' :: (inside ++ '}' :: s))

/-- A text without braces is balanced at every depth. -/
theorem balanced_of_noBraces (h : ∀ c ∈ s, c ≠ '{' ∧ c ≠ '}') : Balanced s := by
  induction s with
  | nil => exact .nil
  | cons c s ih =>
    obtain ⟨⟨hopen, hclose⟩, h⟩ := List.forall_mem_cons.mp h
    exact .cons hopen hclose (ih h)

/-- Balanced texts after one another are balanced. -/
theorem Balanced.append (hs : Balanced s) (hrest : Balanced rest) : Balanced (s ++ rest) := by
  induction hs with
  | nil => exact hrest
  | cons hopen hclose _ ih => exact .cons hopen hclose ih
  | @group inside s hinside _ _ ih =>
    have hgroup := Balanced.group hinside ih
    rwa [List.cons_append, List.append_assoc, List.cons_append]

/-- The search for the closing brace passes over a text in which each brace is closed, by induction on its structure. -/
theorem Balanced.closeBrace?_append (h : Balanced s) (depth : Nat) (rest : List Char) :
    closeBrace? depth (s ++ rest) = (closeBrace? depth rest).map fun found => (s ++ found.1, found.2) := by
  induction h generalizing depth rest with
  | nil => exact Option.map_id'.symm
  | cons hopen hclose _ ih =>
    rw [List.cons_append, closeBrace?_cons hopen hclose, ih, Option.map_map]
    rfl
  | @group inside s _ _ ihinside ih =>
    rw [List.cons_append, List.append_assoc, List.cons_append, closeBrace?_open, ihinside, closeBrace?_close, ih]
    simp only [Option.map_map]
    congr 1
    funext found
    simp [consInside]

/-- Behind a text in which each brace is closed, the closing brace is the next one. -/
theorem Balanced.closeBrace?_eq (h : Balanced inside) (after : List Char) :
    closeBrace? 0 (inside ++ '}' :: after) = some (inside, after) := by
  rw [h.closeBrace?_append]
  simp [closeBrace?]

/-! ## Groups -/

/-- The empty template is normal. -/
theorem normalizeChars_nil : normalizeChars [] = [] := by
  rw [normalizeChars]

/-- Text outside of braces stays. -/
theorem normalizeChars_cons (hc : c ≠ '{') : normalizeChars (c :: rest) = c :: normalizeChars rest := by
  rw [normalizeChars, if_neg hc]

/-- From a brace on that is not closed everything stays. -/
theorem normalizeChars_open (h : closeBrace? 0 rest = none) : normalizeChars ('{' :: rest) = '{' :: rest := by
  rw [normalizeChars, if_pos rfl]
  split
  · rfl
  · next heq =>
    rw [h] at heq
    cases heq

/-- In a group the name is normalized, and what stands behind it by itself. -/
theorem normalizeChars_group (h : closeBrace? 0 rest = some (inside, after)) :
    normalizeChars ('{' :: rest) = '{' :: (normalName inside ++ '}' :: normalizeChars after) := by
  rw [normalizeChars, if_pos rfl]
  split
  · next heq =>
    rw [h] at heq
    cases heq
  · next heq =>
    rw [h] at heq
    obtain ⟨rfl, rfl⟩ := Prod.mk.inj (Option.some.inj heq)
    rfl

/-- What stands between the outermost braces of a template, up to a brace that is not closed. -/
def groups (s : List Char) : List (List Char) :=
  match s with
  | [] => []
  | c :: rest =>
    if c = '{' then
      match h : closeBrace? 0 rest with
      | none => []
      | some (inside, after) =>
        have : after.length < rest.length := length_closeBrace_lt h
        inside :: groups after
    else groups rest
  termination_by s.length

/-- The plain names of a template. -/
def plainNames (s : List Char) : List (List Char) := (groups s).filter isPlainName

/-! ## Names -/

/-- Camel case contains none of the characters that a plain name must not contain. -/
theorem noMark_of_isCaseChar (h : IsCaseChar c) : c ∉ ['{', '}', ',', '\'', '@', '#'] := by
  have htable : (['{', '}', ',', '\'', '@', '#'].all fun c => !isAlphanumeric c && c.toNat.blt 0x80) = true := by decide
  intro hc
  have hmark := List.all_eq_true.mp htable c hc
  rw [Bool.and_eq_true, Bool.not_eq_true', Nat.blt_eq] at hmark
  rcases h with h | h
  · rw [hmark.1] at h
    cases h
  · omega

/-- A name that is rewritten has no mark of the language in it, and something that can be a name. -/
theorem isPlainName_iff : isPlainName inside = true ↔
    (∀ c ∈ inside, c ∉ ['{', '}', ',', '\'', '@', '#']) ∧ camelCase inside ≠ [] := by
  have hempty : camelCase inside ≠ [] → inside ≠ [] := by
    rintro hne rfl
    exact hne rfl
  simp only [isPlainName, Bool.and_eq_true, Bool.not_eq_true', List.isEmpty_eq_false_iff, List.any_eq_false,
    decide_eq_true_eq, and_assoc]
  exact ⟨And.right, fun h => ⟨hempty h.2, h⟩⟩

/-- A plain name in camel case is a plain name. -/
theorem isPlainName_camelCase (h : isPlainName inside = true) : isPlainName (camelCase inside) = true := by
  obtain ⟨-, hne⟩ := isPlainName_iff.mp h
  exact isPlainName_iff.mpr ⟨fun c hc => noMark_of_isCaseChar (isCaseChar_of_mem_camelCase c hc), camelCase_camelCase_ne_nil hne⟩

/-- In particular it has no braces. -/
theorem noBraces_of_isPlainName (h : isPlainName inside = true) : ∀ c ∈ inside, c ≠ '{' ∧ c ≠ '}' := by
  intro c hc
  have hmark := (isPlainName_iff.mp h).1 c hc
  constructor
  · rintro rfl
    exact hmark (by decide)
  · rintro rfl
    exact hmark (by decide)

/-- The group of a plain name is a group again when its name is in camel case. -/
theorem closeBrace?_normalName (h : closeBrace? 0 s = some (inside, after)) :
    closeBrace? 0 (normalName inside ++ '}' :: rest) = some (normalName inside, rest) := by
  cases hplain : isPlainName inside with
  | false =>
    rw [normalName, hplain, if_neg Bool.false_ne_true]
    exact (closeBrace?_eq_some h).2 rest
  | true =>
    rw [normalName, hplain, if_pos rfl]
    exact (balanced_of_noBraces (noBraces_of_isPlainName (isPlainName_camelCase hplain))).closeBrace?_eq rest

/-- What stands between braces changes once more exactly if it is a plain name whose camel case is not in camel case. -/
theorem normalName_normalName_iff :
    normalName (normalName inside) = normalName inside ↔ (isPlainName inside = true → IsCamel (camelCase inside)) := by
  cases hplain : isPlainName inside with
  | false =>
    have hsame : normalName inside = inside := by rw [normalName, hplain, if_neg Bool.false_ne_true]
    rw [hsame, hsame]
    exact iff_of_true rfl nofun
  | true =>
    have hcamel : normalName inside = camelCase inside := by rw [normalName, hplain, if_pos rfl]
    rw [hcamel, normalName, isPlainName_camelCase hplain, if_pos rfl, camelCase_eq_self_iff]
    exact ⟨fun h _ => h, fun h => h rfl⟩

/-! ## The template -/

/-- A group stays as it is exactly if what stands between its braces and what follows it do. -/
theorem group_inj {inside' after' : List Char} (h : closeBrace? 0 (inside ++ '}' :: after) = some (inside, after))
    (h' : closeBrace? 0 (inside' ++ '}' :: after') = some (inside', after')) :
    '{' :: (inside ++ '}' :: after) = '{' :: (inside' ++ '}' :: after') ↔ inside = inside' ∧ after = after' := by
  constructor
  · intro heq
    rw [List.tail_eq_of_cons_eq heq, h'] at h
    obtain ⟨rfl, rfl⟩ := Prod.mk.inj (Option.some.inj h)
    exact ⟨rfl, rfl⟩
  · rintro ⟨rfl, rfl⟩
    rfl

/-- The plain names are those of the groups that are rewritten. -/
theorem forall_mem_plainNames {P : List Char → Prop} :
    (∀ name ∈ plainNames s, P name) ↔ ∀ inside ∈ groups s, isPlainName inside = true → P inside := by
  simp only [plainNames, List.mem_filter, and_imp]

/-- A template changes when it is normalized again exactly if one of its names does, by the recursion over its groups. -/
theorem normalizeChars_normalizeChars_iff :
    normalizeChars (normalizeChars s) = normalizeChars s ↔ ∀ name ∈ plainNames s, IsCamel (camelCase name) := by
  rw [forall_mem_plainNames]
  fun_induction groups s with
  | case1 =>
    rw [normalizeChars_nil]
    exact iff_of_true normalizeChars_nil nofun
  | case2 rest h =>
    rw [normalizeChars_open h]
    exact iff_of_true (normalizeChars_open h) nofun
  | case3 rest inside after h _ ih =>
    have hagain : ∀ rest, closeBrace? 0 (normalName inside ++ '}' :: rest) = some (normalName inside, rest) := fun _ =>
      closeBrace?_normalName h
    rw [normalizeChars_group h, normalizeChars_group (hagain _), group_inj (closeBrace?_normalName (hagain [])) (hagain _),
      normalName_normalName_iff, ih, List.forall_mem_cons]
  | case4 c rest hc ih => rw [normalizeChars_cons hc, normalizeChars_cons hc, List.cons_inj_right, ih]

/-- Normalizing again changes a template exactly if the name of a group is no camel case after the first time. -/
theorem normalize_normalize_iff {template : String} :
    normalize (normalize template) = normalize template ↔ ∀ name ∈ plainNames template.toList, IsCamel (camelCase name) := by
  rw [normalize, normalize, String.toList_ofList, String.ofList_inj, normalizeChars_normalizeChars_iff]

/-- A text in camel case stays as it is when it is put into camel case again exactly if each of its capitals begins a word. For an
ASCII text that is so if no two of its words behind the first one run together. A template that has been normalized stays as it
is when it is normalized again exactly if the camel case of each of its names does. -/
theorem camelCase_and_normalize_idempotent_iff (s : List Char) (template : String) :
    (camelCase (camelCase s) = camelCase s ↔ IsCamel (camelCase s)) ∧
    ((∀ c ∈ s, c.toNat < 0x80) →
      (camelCase (camelCase s) = camelCase s ↔ (words s).tail.IsChain fun u w => runTogether u w = false)) ∧
    (normalize (normalize template) = normalize template ↔
      ∀ name ∈ plainNames template.toList, camelCase (camelCase name) = camelCase name) := by
  refine ⟨camelCase_eq_self_iff, fun hs => ?_, ?_⟩
  · rw [camelCase_eq_self_iff, isCamel_camelCase_iff hs]
  · simp only [camelCase_eq_self_iff, normalize_normalize_iff]

/-- Two words of more than one letter stay two words. -/
theorem camelCase_and_normalize_idempotent_iff_user_name :
    (∀ c ∈ "user_name".toList, c.toNat < 0x80) ∧
      camelCase (camelCase "user_name".toList) = camelCase "user_name".toList := by
  have hascii : ∀ c ∈ "user_name".toList, c.toNat < 0x80 := @of_decide_eq_true _ (List.decidableBAll _ _) rfl
  exact ⟨hascii, ((camelCase_and_normalize_idempotent_iff _ "").2.1 hascii).mpr (by decide)⟩

/-- The words `x` and `y` run together, and `pointXY` has the words `point` and `XY`. -/
theorem camelCase_and_normalize_idempotent_false :
    camelCase (camelCase "point_x_y".toList) ≠ camelCase "point_x_y".toList ∧
      normalize (normalize "{point_x_y}") ≠ normalize "{point_x_y}" := by decide +kernel

end Phrasebook.Template
