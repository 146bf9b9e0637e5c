import Mathlib.Data.List.Nodup
import Phrasebook.Proofs.Message.Braces
import Phrasebook.Proofs.Message.Names
import Phrasebook.Proofs.Message.Writing

/-!
# Messages with their names in camel case

Normalizing looks for braces, whether they are quoted or not. If every brace of a message belongs to an argument or a branch, up
to closing ones that stand in the text outside of arguments, it finds the arguments of the message. So only the names of
arguments outside of branches that are nothing but a name change, in the text (`Reads.normalizes`) and in the tree
(`renameValue`), and the message is formatted as before with the values under their new names (`format_normalize`).
-/

namespace Phrasebook.Message

open Text Unicode Template

variable {p n : Bool} {q q' : Quoting} {c : Char} {s t u a b out : List Char} {name locale text message : String} {node : Node}
  {nodes : List Node} {places : List ArgumentPlace} {values : Variables}

/-! ## Names in camel case -/

/-- A name in camel case. -/
def camelName (name : String) : String := String.ofList (camelCase name.toList)

/-- The node with its name in camel case if it is a value as it is. -/
def renameValue : Node → Node
  | .argument name => .argument (camelName name)
  | node => node

/-- The names of the values that stand by themselves in a message, outside of branches. -/
def valueNames (nodes : List Node) : List String :=
  nodes.filterMap fun
    | .argument name => some name
    | _ => none

/-- The names in a node, unless it is a value as it is. -/
def otherNamesIn : Node → List String
  | .argument _ => []
  | node => nodeNames node

/-- The names of a message, but for those that normalizing may change. -/
def otherNames (nodes : List Node) : List String := nodes.flatMap otherNamesIn

/-- The values under their names in camel case. -/
def renameKeys (values : Variables) : Variables := .ofList (values.entries.map fun (name, value) => (camelName name, value))

/-- A value is found under its name in camel case if no two names have the same one. -/
theorem get?_renameKeys {value : Value} (hdistinct : (values.keys.map camelName).Nodup) (h : values.get? name = some value) :
    (renameKeys values).get? (camelName name) = some value := by
  have hentry := OrderedMap.get?_eq_some_iff.mp h
  refine OrderedMap.get?_ofList_eq_some (List.mem_map.mpr ⟨_, hentry, rfl⟩) fun other hother => ?_
  obtain ⟨⟨name', value'⟩, hentry', heq⟩ := List.mem_map.mp hother
  obtain ⟨hname, rfl⟩ := Prod.mk.inj heq
  have h' : values.get? name' = some value' := OrderedMap.get?_eq_some_iff.mpr hentry'
  obtain rfl : name' = name := List.inj_on_of_nodup_map hdistinct (OrderedMap.mem_keys_iff.mpr ⟨_, h'⟩)
    (OrderedMap.mem_keys_iff.mpr ⟨_, h⟩) hname
  exact Option.some.inj (h'.symm.trans h)

/-! ## Rendering -/

/-- Each value that stands by itself in a message that is rendered has a value. -/
theorem exists_get?_of_renderNodes (h : renderNodes locale values none nodes = .ok text) (hmem : name ∈ valueNames nodes) :
    ∃ value, values.get? name = some value := by
  induction nodes generalizing text with
  | nil => cases hmem
  | cons node nodes ih =>
    obtain ⟨first, others, hfirst, hothers, -⟩ := renderNodes_cons_eq_ok_iff.mp h
    cases node with
    | argument name' =>
      rcases List.mem_cons.mp hmem with rfl | hmem
      · rw [renderNode] at hfirst
        cases hvalue : valueOf values name with
        | error e =>
          rw [hvalue] at hfirst
          cases hfirst
        | ok value => exact ⟨value, valueOf_eq_ok_iff.mp hvalue⟩
      · exact ih hothers hmem
    | _ => exact ih hothers hmem

/-- A node is rendered alike under the new names. -/
theorem keeps_renameValue (hdistinct : (values.keys.map camelName).Nodup)
    (hnames : ∀ name ∈ otherNamesIn node, camelName name = name) :
    Keeps (renderNode locale values none node) (renderNode locale (renameKeys values) none (renameValue node)) := by
  have hkept : ∀ names : List String, (∀ name ∈ names, camelName name = name) → KeepsValues names values (renameKeys values) := by
    intro names hcamel name hname value hvalue
    have hfound := get?_renameKeys hdistinct hvalue
    rwa [hcamel name hname] at hfound
  cases node with
  | argument name =>
    intro t ht
    rw [renderNode] at ht
    cases hvalue : valueOf values name with
    | error e =>
      rw [hvalue] at ht
      cases ht
    | ok value =>
      have hfound := get?_renameKeys hdistinct (valueOf_eq_ok_iff.mp hvalue)
      rw [hvalue] at ht
      rw [renameValue, renderNode, valueOf_eq_ok_iff.mpr hfound]
      exact ht
  | _ => exact keeps_renderNode _ none (hkept _ hnames)

theorem renderNodes_renameValue (hdistinct : (values.keys.map camelName).Nodup)
    (hnames : ∀ name ∈ otherNames nodes, camelName name = name) (h : renderNodes locale values none nodes = .ok text) :
    renderNodes locale (renameKeys values) none (nodes.map renameValue) = .ok text := by
  induction nodes generalizing text with
  | nil =>
    rw [List.map_nil, renderNodes]
    rwa [renderNodes] at h
  | cons node nodes ih =>
    obtain ⟨first, others, hfirst, hothers, rfl⟩ := renderNodes_cons_eq_ok_iff.mp h
    have hnode : ∀ name ∈ otherNamesIn node, camelName name = name := fun name hname =>
      hnames name (List.mem_append_left _ hname)
    have hnodes : ∀ name ∈ otherNames nodes, camelName name = name := fun name hname =>
      hnames name (List.mem_append_right _ hname)
    exact renderNodes_cons_eq_ok_iff.mpr ⟨first, others, keeps_renameValue hdistinct hnode _ hfirst, ih hnodes hothers, rfl⟩

/-! ## Arguments -/

/-- A comma in front of which no closing brace stands is inside. -/
theorem mem_comma (h : u ++ '}' :: t = a ++ ',' :: b) (ha : '}' ∉ a) : ',' ∈ u := by
  induction u generalizing a with
  | nil =>
    cases a with
    | nil => cases h
    | cons c a =>
      obtain ⟨rfl, -⟩ := List.cons.inj h
      exact absurd List.mem_cons_self ha
  | cons d u ih =>
    cases a with
    | nil =>
      obtain ⟨rfl, -⟩ := List.cons.inj h
      exact List.mem_cons_self
    | cons c a => exact List.mem_cons_of_mem d (ih (List.cons.inj h).2 fun hmem => ha (List.mem_cons_of_mem c hmem))

/-- A type is set off from the name by a comma. -/
theorem KindText.exists_comma {kind : String} (ha : KindText name kind a) (s : List Char) :
    ∃ front behind, a ++ s = front ++ ',' :: behind ∧ '}' ∉ front := by
  obtain ⟨hname, h₁, h₂, h₃, h₄⟩ := ha
  rename_i b₁ b₂ b₃ b₄
  refine ⟨b₁ ++ (name.toList ++ b₂), b₃ ++ (kind.toList ++ (b₄ ++ s)), by simp, ?_⟩
  exact (h₁.noBrace.append (hname.1.noBrace.append h₂.noBrace)).2

/-- An argument with a type is not a plain name. -/
theorem isPlainName_of_comma (h : ',' ∈ u) : isPlainName u = false := by
  rw [Bool.eq_false_iff]
  intro hplain
  exact (isPlainName_iff.mp hplain).1 _ h (by decide)

/-- The white space around a name does not matter. -/
theorem normalName_argument {b₁ b₂ : List Char} (hname : IsArgumentName name) (h₁ : Blanks b₁) (h₂ : Blanks b₂)
    (hcamel : camelName name ≠ "") : normalName (b₁ ++ (name.toList ++ b₂)) = (camelName name).toList := by
  have hgap : ∀ {v}, Blanks v → IsGap v := fun hv c hc => isAlphanumeric_of_isBlank (hv c hc)
  have hsame : camelCase (b₁ ++ (name.toList ++ b₂)) = camelCase name.toList := camelCase_between (hgap h₁) (hgap h₂)
  have hplain : isPlainName (b₁ ++ (name.toList ++ b₂)) = true := by
    have htable : (['{', '}', ',', '\'', '@', '#'].all fun c => !isBlank c && !isNameChar c) = true := by decide
    refine isPlainName_iff.mpr ⟨fun c hc hmem => ?_, ?_⟩
    · have hmark := List.all_eq_true.mp htable c hmem
      simp only [Bool.and_eq_true, Bool.not_eq_true'] at hmark
      obtain ⟨hblank, hchar⟩ := hmark
      simp only [List.mem_append] at hc
      rcases hc with hc | hc | hc
      · rw [h₁ c hc] at hblank
        cases hblank
      · rw [hname.2 c hc] at hchar
        cases hchar
      · rw [h₂ c hc] at hblank
        cases hblank
    · rw [hsame]
      rintro hnil
      exact hcamel (by rw [camelName, hnil])
  rw [normalName, hplain, if_pos rfl, hsame, camelName, String.toList_ofList]

/-- What normalizing leaves between the braces of an argument is read as the argument under its new name. -/
theorem reads_normalName (h : Reads (.argument p node) (u ++ '}' :: t) t places)
    (hcamel : ∀ name, node = .argument name → IsIdentifier (camelName name)) (rest : List Char) :
    ∃ places, Reads (.argument p (renameValue node)) (normalName u ++ '}' :: rest) rest places := by
  have hsame : ∀ {a b}, u ++ '}' :: t = a ++ ',' :: b → '}' ∉ a → ∃ places, Reads (.argument p node) (normalName u ++ '}' :: rest) rest places := by
    intro a b hcomma ha
    obtain ⟨v, hv, hchange⟩ := h.argument_change
    obtain rfl : u = v := List.append_cancel_right hv
    rw [normalName, isPlainName_of_comma (mem_comma hcomma ha), if_neg Bool.false_ne_true]
    exact hchange rest
  generalize hs : u ++ '}' :: t = s at h hsame
  cases h with
  | @value _ name _ _ hhead =>
    cases hhead with
    | @argument _ b₁ b₂ _ hname h₁ h₂ =>
      obtain rfl : u = b₁ ++ (name.toList ++ b₂) := List.append_cancel_right (by simpa using hs)
      have hidentifier := hcamel name rfl
      have hnone : Blanks [] := List.forall_mem_nil _
      have hhead : ReadsHead (.argument (camelName name)) ([] ++ ((camelName name).toList ++ ([] ++ '}' :: rest))) rest :=
        .argument hidentifier.isArgumentName hnone hnone
      rw [List.nil_append, List.nil_append] at hhead
      rw [normalName_argument hname h₁ h₂ hidentifier.1]
      exact ⟨_, .value hhead⟩
  | number hhead =>
    cases hhead with
    | number ha _ =>
      obtain ⟨front, behind, hcomma, hfront⟩ := ha.exists_comma _
      exact hsame hcomma hfront
  | plural hhead _ _ =>
    cases hhead with
    | plural ha _ _ _ =>
      obtain ⟨front, behind, hcomma, hfront⟩ := ha.exists_comma _
      exact hsame hcomma hfront
    | offset ha _ _ _ _ _ =>
      obtain ⟨front, behind, hcomma, hfront⟩ := ha.exists_comma _
      exact hsame hcomma hfront
  | select hhead _ _ =>
    cases hhead with
    | select ha =>
      obtain ⟨front, behind, hcomma, hfront⟩ := ha.exists_comma _
      exact hsame hcomma hfront

/-! ## Messages -/

/-- How many closing braces stand in the text outside of arguments. -/
def looseBraces : List Node → Nat
  | [] => 0
  | .text s :: nodes => s.toList.count '}' + looseBraces nodes
  | _ :: nodes => looseBraces nodes

theorem looseBraces_prepend (out : List Char) (nodes : List Node) :
    looseBraces (prepend out nodes) = out.count '}' + looseBraces nodes := by
  unfold prepend
  split
  · rw [looseBraces, looseBraces, String.toList_ofList, List.count_append, Nat.add_assoc]
  · unfold consText
    split
    · next hempty =>
      rw [List.isEmpty_iff.mp hempty]
      exact (Nat.zero_add _).symm
    · rw [looseBraces, String.toList_ofList]

theorem looseBraces_argument (h : ownBraces node = 1) : looseBraces (node :: nodes) = looseBraces nodes := by
  cases node with
  | text s => cases h
  | _ => rfl

/-- The braces of a message are those of its arguments and branches, and closing ones that stand in the text outside of
arguments. -/
structure BracesFit (nodes : List Node) (s : List Char) : Prop where
  opening : s.count '{' = bracesOf nodes
  closing : s.count '}' = bracesOf nodes + looseBraces nodes

/-- A character of text adds no closing brace but itself. -/
theorem count_of_textStep (h : textStep p q c = some (out, q')) : out.count '}' ≤ [c].count '}' := by
  have hout : out.Sublist ['\'', c] := by cases q <;> grind [textStep]
  calc out.count '}' ≤ ['\'', c].count '}' := hout.count_le '}'
    _ = [c].count '}' := List.count_cons_of_ne (by decide)

/-- An opening brace begins an argument if every one belongs to an argument or a branch. -/
theorem ne_brace_of_count (hle : bracesOf nodes ≤ s.count '{') (heq : (c :: s).count '{' = bracesOf nodes) : c ≠ '{' := by
  rintro rfl
  rw [List.count_cons_self] at heq
  omega

theorem map_renameValue_prepend (out : List Char) (nodes : List Node) :
    (prepend out nodes).map renameValue = prepend out (nodes.map renameValue) := by
  have hconsText : ∀ nodes, (consText out nodes).map renameValue = consText out (nodes.map renameValue) := by
    intro nodes
    unfold consText
    split <;> rfl
  cases nodes with
  | nil => exact hconsText []
  | cons node nodes =>
    cases node with
    | text s => rfl
    | _ => exact hconsText _

theorem valueNames_prepend (out : List Char) (nodes : List Node) : valueNames (prepend out nodes) = valueNames nodes := by
  unfold prepend
  split
  · rfl
  · unfold consText
    split <;> rfl

theorem mem_valueNames_cons (h : name ∈ valueNames nodes) (node : Node) : name ∈ valueNames (node :: nodes) := by
  cases node with
  | argument name' => exact List.mem_cons_of_mem name' h
  | _ => exact h

/-- A message has the braces of its tree. If it has no others, normalizing it gives a text of the tree under the new names. By
induction on how the grammar says the message. -/
theorem Reads.normalizes (h : Reads (.nodes q false false nodes) s [] places) :
    bracesOf nodes ≤ s.count '{' ∧ bracesOf nodes + looseBraces nodes ≤ s.count '}' ∧
      (BracesFit nodes s → (∀ name ∈ valueNames nodes, IsIdentifier (camelName name)) →
        ∃ places, Reads (.nodes q false false (nodes.map renameValue)) (normalizeChars s) [] places) := by
  generalize hpart : Part.nodes q false false nodes = part at h
  generalize hrest : ([] : List Char) = rest at h
  induction h generalizing q nodes with
  | @done q p n =>
    cases hpart
    have hatEnd : q.atEnd.count '}' = 0 := by cases q <;> decide
    have hnodes : consText q.atEnd [] = prepend q.atEnd [] := rfl
    rw [hnodes, bracesOf_prepend, looseBraces_prepend, hatEnd, map_renameValue_prepend, normalizeChars_nil]
    exact ⟨Nat.zero_le _, Nat.zero_le _, fun _ _ => ⟨_, .done⟩⟩
  | @text q q' p n c out s rest nodes places hstep hnodes ih =>
    cases hpart
    cases hrest
    obtain ⟨hopen, hclose, hreads⟩ := ih rfl rfl
    have hout := count_of_textStep hstep
    have hchars : ([c] ++ s).count '}' = [c].count '}' + s.count '}' := List.count_append
    rw [List.singleton_append] at hchars
    have hopens : s.count '{' ≤ (c :: s).count '{' := List.count_le_count_cons
    rw [bracesOf_prepend, looseBraces_prepend, map_renameValue_prepend]
    refine ⟨by omega, by omega, fun ⟨hopening, hclosing⟩ hcamel => ?_⟩
    rw [bracesOf_prepend] at hopening hclosing
    rw [looseBraces_prepend] at hclosing
    have hc := ne_brace_of_count hopen hopening
    have hfit : BracesFit nodes s := by
      refine ⟨?_, by omega⟩
      rwa [List.count_cons_of_ne hc] at hopening
    rw [valueNames_prepend] at hcamel
    obtain ⟨places', hreads⟩ := hreads hfit hcamel
    rw [normalizeChars_cons hc]
    exact ⟨_, .text hstep hreads⟩
  | closed _ => cases hpart
  | @pound q p n s rest nodes places hstep _ ih =>
    cases hpart
    cases isMark_of_textStep hstep
  | @argument q p n s t rest node nodes inside places hstep hnode _ _ ih =>
    cases hpart
    cases hrest
    obtain ⟨hopen, hclose, hreads⟩ := ih rfl rfl
    obtain ⟨hown, u, rfl, hu⟩ := hnode.haveBraces
    have huopen := hu.opening
    have huclose := hu.closing
    have hopens : ('{' :: (u ++ '}' :: t)).count '{' = u.count '{' + t.count '{' + 1 := by simp
    have hcloses : ('{' :: (u ++ '}' :: t)).count '}' = u.count '}' + t.count '}' + 1 := by simp [Nat.add_assoc]
    rw [bracesOf_cons, hown, looseBraces_argument hown]
    refine ⟨by omega, by omega, fun ⟨hopening, hclosing⟩ hcamel => ?_⟩
    rw [bracesOf_cons, hown] at hopening hclosing
    rw [looseBraces_argument hown] at hclosing
    have hfit : BracesFit nodes t := ⟨by omega, by omega⟩
    -- the braces of the argument are its own, so the search for the closing one ends where the argument does
    have hbalanced : Balanced u := hu.balanced (by omega) (by omega)
    obtain ⟨_, hlater⟩ := hreads hfit fun name hname => hcamel name (mem_valueNames_cons hname node)
    have hname : ∀ name, node = .argument name → IsIdentifier (camelName name) := by
      rintro name rfl
      exact hcamel name List.mem_cons_self
    obtain ⟨_, hrenamed⟩ := reads_normalName hnode hname (normalizeChars t)
    rw [normalizeChars_group (hbalanced.closeBrace?_eq t)]
    exact ⟨_, .argument hstep hrenamed hlater⟩
  | value _ => cases hpart
  | number _ => cases hpart
  | plural _ _ _ _ => cases hpart
  | select _ _ _ _ => cases hpart
  | pluralEnd _ => cases hpart
  | pluralBranch _ _ _ _ _ _ => cases hpart
  | selectEnd _ => cases hpart
  | selectBranch _ _ _ _ _ => cases hpart

/-- The new names of the values that stand by themselves are names of arguments, if the values have names at all and their new
names consist of letters and numerals. -/
theorem isIdentifier_camelName (hrender : renderNodes locale values none nodes = .ok text)
    (hnonempty : ∀ name ∈ values.keys, camelName name ≠ "")
    (hletters : ∀ name ∈ valueNames nodes, ∀ c ∈ (camelName name).toList, isAlphanumeric c = true)
    (hmem : name ∈ valueNames nodes) : IsIdentifier (camelName name) := by
  refine ⟨hnonempty name (OrderedMap.mem_keys_iff.mpr (exists_get?_of_renderNodes hrender hmem)), fun c hc => ?_⟩
  rw [isNameChar, hletters name hmem c hc, Bool.true_or]

/-- A message that is formatted is formatted alike after it has been normalized, with the values under their names in camel case,
and all of its texts stay as they are. This needs the braces of the message to be those of its arguments and branches, up to
closing ones outside of arguments, and the new names to consist of letters and numerals. -/
theorem format_normalize (hread : read message = .ok nodes)
    (hformat : Formatter.standard.format message locale values = .ok text)
    (hdistinct : (values.keys.map camelName).Nodup) (hnonempty : ∀ name ∈ values.keys, camelName name ≠ "")
    (hnames : ∀ name ∈ otherNames nodes, camelName name = name) (hbraces : BracesFit nodes message.toList)
    (hletters : ∀ name ∈ valueNames nodes, ∀ c ∈ (camelName name).toList, isAlphanumeric c = true) :
    read (Template.normalize message) = .ok (nodes.map renameValue) ∧
      Formatter.standard.format (Template.normalize message) locale (renameKeys values) = .ok text := by
  obtain ⟨nodes', hread', hrender⟩ := format_eq_ok_iff.mp hformat
  obtain rfl : nodes' = nodes := Except.ok.inj (hread'.symm.trans hread)
  obtain ⟨places, hreads⟩ := read_eq_ok_iff.mp hread
  obtain ⟨-, -, hnormalizes⟩ := hreads.normalizes
  have hidentifier : ∀ name ∈ valueNames nodes', IsIdentifier (camelName name) := fun name hmem =>
    isIdentifier_camelName hrender hnonempty hletters hmem
  have hnormalized : read (Template.normalize message) = .ok (nodes'.map renameValue) := by
    rw [read_eq_ok_iff, Template.normalize, String.toList_ofList]
    exact hnormalizes hbraces hidentifier
  exact ⟨hnormalized, format_eq_ok_iff.mpr ⟨_, hnormalized, renderNodes_renameValue hdistinct hnames hrender⟩⟩

namespace NormalizedNamesWitness

/-- A greeting with an apostrophe, and a plural behind it. -/
def greeting : String := "It's \x7b user_name \x7d: \x7bcount, plural, one \x7b# file\x7d other \x7b# files\x7d\x7d"

def ada : Variables := .ofList [("user_name", .text "Ada"), ("count", .text "2")]

end NormalizedNamesWitness

open NormalizedNamesWitness in
theorem format_normalize_greeting :
    Formatter.standard.format greeting "en" ada = .ok "It's Ada: 2 files" ∧
      Formatter.standard.format (Template.normalize greeting) "en" (renameKeys ada) = .ok "It's Ada: 2 files" := by
  have hformat : Formatter.standard.format greeting "en" ada = .ok "It's Ada: 2 files" := by decide +kernel
  obtain ⟨nodes, hread, -⟩ := format_eq_ok_iff.mp hformat
  have htree : (read greeting).toOption.map (fun nodes => (valueNames nodes, otherNames nodes, bracesOf nodes, looseBraces nodes)) =
      some (["user_name"], ["count"], 4, 0) := by decide +kernel
  rw [hread] at htree
  obtain ⟨hvalues, hothers, hbraces, hloose⟩ : valueNames nodes = ["user_name"] ∧ otherNames nodes = ["count"] ∧
      bracesOf nodes = 4 ∧ looseBraces nodes = 0 := by simpa [Except.toOption] using htree
  have hnames : ∀ name ∈ otherNames nodes, camelName name = name := by
    rw [hothers]
    decide
  have hletters : ∀ name ∈ valueNames nodes, ∀ c ∈ (camelName name).toList, isAlphanumeric c = true := by
    rw [hvalues]
    exact List.forall_mem_singleton.mpr (List.all_eq_true.mp (by decide))
  have hfit : BracesFit nodes greeting.toList := by
    constructor
    · rw [hbraces]
      decide
    · rw [hbraces, hloose]
      decide
  have hdistinct : (ada.keys.map camelName).Nodup := by decide
  have hnonempty : ∀ name ∈ ada.keys, camelName name ≠ "" := by decide
  have hnormalized := (format_normalize hread hformat hdistinct hnonempty hnames hfit hletters).2
  exact ⟨hformat, hnormalized⟩

/-- Quoted text in braces is no argument, and it is put into camel case as well. -/
theorem format_normalize_false :
    read "'\x7buser name\x7d'" = .ok [.text "\x7buser name\x7d"] ∧
      Formatter.standard.format "'\x7buser name\x7d'" "en" .empty = .ok "\x7buser name\x7d" ∧
      Formatter.standard.format (Template.normalize "'\x7buser name\x7d'") "en" (renameKeys .empty) = .ok "\x7buserName\x7d" := by
  have hnodes : AreNodes false [.text "\x7buser name\x7d"] := ⟨(by decide : "\x7buser name\x7d" ≠ ""), .inr trivial, trivial⟩
  have hwritten : AreWritten false [.text "\x7buser name\x7d"] "'\x7buser name\x7d'".toList :=
    ⟨"'\x7buser name\x7d'".toList, [], (by decide : _ = writeText false "\x7buser name\x7d".toList), rfl, by decide⟩
  exact ⟨(read_of_areWritten hnodes).2 _ hwritten, by decide +kernel, by decide +kernel⟩

end Phrasebook.Message
