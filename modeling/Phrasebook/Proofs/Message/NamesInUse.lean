import Mathlib.Data.List.Basic
import Phrasebook.Proofs.Message.Names
import Phrasebook.Proofs.Message.NumberSigns

/-!
# The names that a message is formatted with

Of a plural and of a select one branch is taken, so that a name is in use if it occurs outside of the branches that are not
taken (`InUse`). Only the values of these names matter to the result, be it a text or an error (`renderNodes_congr`), and each
of them must have a value for there to be a text (`InUse.get?_ne_none`).
-/

namespace Phrasebook.Message

variable {locale name text : String} {values values' : Variables} {pound : Option Number} {nodes : List Node}

/-! ## The branch that is taken -/

/-- What is taken is one of the branches. -/
theorem firstWith?_eq_some {κ α : Type} {p : κ → Bool} {a : α} {branches : List (κ × α)}
    (h : firstWith? p branches = some a) : ∃ key, (key, a) ∈ branches := by
  obtain ⟨⟨key, a'⟩, hfind, rfl⟩ := Option.map_eq_some_iff.mp h
  exact ⟨key, List.mem_of_find?_eq_some hfind⟩

/-- A plural takes one of its branches, be it for the exact value, the category or `other`. -/
theorem mem_of_pluralBranch? {α : Type} {x counted : Number} {branches : List (PluralKey × α)} {body : α}
    (h : pluralBranch? locale x counted branches = some body) : ∃ key, (key, body) ∈ branches := by
  rcases (Option.orElse_eq_some ..).mp h with hexact | ⟨-, h⟩
  · exact firstWith?_eq_some hexact
  · rcases (Option.orElse_eq_some ..).mp h with hcategory | ⟨-, hother⟩
    · exact firstWith?_eq_some hcategory
    · exact firstWith?_eq_some hother

/-- So does a select. -/
theorem mem_of_selectBranch? {α : Type} {key : String} {branches : List (String × α)} {body : α}
    (h : selectBranch? key branches = some body) : ∃ key, (key, body) ∈ branches := by
  rcases (Option.orElse_eq_some ..).mp h with hkeyed | ⟨-, hother⟩
  · exact firstWith?_eq_some hkeyed
  · exact firstWith?_eq_some hother

/-- To look for a branch and render it is to render the branch that is found. -/
theorem renderPlural_eq_map {p : PluralKey → Bool} (branches : List (PluralKey × List Node)) :
    renderPlural locale values pound p branches = (firstWith? p branches).map (renderNodes locale values pound) := by
  induction branches with
  | nil => rfl
  | cons branch branches ih =>
    obtain ⟨key, nodes⟩ := branch
    rw [renderPlural, firstWith?_cons, ih]
    split <;> rfl

/-- The same holds of a select. -/
theorem renderSelect_eq_map {p : String → Bool} (branches : List (String × List Node)) :
    renderSelect locale values pound p branches = (firstWith? p branches).map (renderNodes locale values pound) := by
  induction branches with
  | nil => rfl
  | cons branch branches ih =>
    obtain ⟨key, nodes⟩ := branch
    rw [renderSelect, firstWith?_cons, ih]
    split <;> rfl

/-- A plural is rendered as the branch that is taken. -/
theorem renderNode_plural {offset x : Number} {branches : List (PluralKey × List Node)} (hx : numberOf values name = .ok x) :
    renderNode locale values pound (.plural name offset branches) =
      ((pluralBranch? locale x (x.sub offset) branches).map (renderNodes locale values (some (x.sub offset)))).getD
        (.error (.missingOther name)) := by
  rw [renderNode, hx]
  simp only [bind, Except.bind, renderPlural_eq_map, pluralBranch?, Option.orElse_eq_orElse, Option.orElse_eq_or, Option.map_or]

/-- A select is rendered as the branch that is taken. -/
theorem renderNode_select {value : Value} {branches : List (String × List Node)} (hvalue : valueOf values name = .ok value) :
    renderNode locale values pound (.select name branches) =
      ((selectBranch? value.display branches).map (renderNodes locale values pound)).getD (.error (.missingOther name)) := by
  rw [renderNode, hvalue]
  simp only [bind, Except.bind, renderSelect_eq_map, selectBranch?, Option.orElse_eq_orElse, Option.orElse_eq_or, Option.map_or]

/-! ## Names in use -/

/-- The argument whose value a node asks for. -/
def askedName? : Node → Option String
  | .text _ => none
  | .argument name => some name
  | .number name => some name
  | .plural name _ _ => some name
  | .select name _ => some name
  | .pound => none

/-- The name occurs outside of the branches that are not taken. -/
inductive InUse (locale : String) (values : Variables) (name : String) : List Node → Prop where
  | asked {nodes : List Node} {node : Node} (h : node ∈ nodes) (hname : askedName? node = some name) :
      InUse locale values name nodes
  | pluralBranch {nodes body : List Node} {decider : String} {offset x : Number} {branches : List (PluralKey × List Node)}
      (h : Node.plural decider offset branches ∈ nodes) (hx : numberOf values decider = .ok x)
      (hbody : pluralBranch? locale x (x.sub offset) branches = some body) (hname : InUse locale values name body) :
      InUse locale values name nodes
  | selectBranch {nodes body : List Node} {decider : String} {value : Value} {branches : List (String × List Node)}
      (h : Node.select decider branches ∈ nodes) (hvalue : valueOf values decider = .ok value)
      (hbody : selectBranch? value.display branches = some body) (hname : InUse locale values name body) :
      InUse locale values name nodes

/-- A name in use in some nodes is in use among more of them. -/
theorem InUse.mono {nodes' : List Node} (h : InUse locale values name nodes) (hnodes : nodes ⊆ nodes') :
    InUse locale values name nodes' := by
  cases h with
  | asked h hname => exact .asked (hnodes h) hname
  | pluralBranch h hx hbody hname => exact .pluralBranch (hnodes h) hx hbody hname
  | selectBranch h hvalue hbody hname => exact .selectBranch (hnodes h) hvalue hbody hname

/-- The name that a node asks for is one of its names. -/
theorem mem_nodeNames_of_askedName? {node : Node} (h : askedName? node = some name) : name ∈ nodeNames node := by
  cases node with
  | text | pound => cases h
  | argument | number | plural | select =>
    obtain rfl := Option.some.inj h
    rw [nodeNames]
    exact List.mem_cons_self

/-- The names of a node are names of the message. -/
theorem nodeNames_subset {node : Node} (h : node ∈ nodes) : nodeNames node ⊆ argumentNames nodes := by
  induction nodes with
  | nil => cases h
  | cons first nodes ih =>
    rw [argumentNames]
    rcases List.mem_cons.mp h with rfl | h
    · exact List.subset_append_left ..
    · exact List.Subset.trans (ih h) (List.subset_append_right ..)

/-- The names in a branch are names of its plural. -/
theorem argumentNames_subset_pluralNames {key : PluralKey} {branches : List (PluralKey × List Node)}
    (h : (key, nodes) ∈ branches) : argumentNames nodes ⊆ pluralNames branches := by
  induction branches with
  | nil => cases h
  | cons first branches ih =>
    obtain ⟨key', nodes'⟩ := first
    rw [pluralNames]
    rcases List.mem_cons.mp h with h | h
    · rw [(Prod.mk.inj h).2]
      exact List.subset_append_left ..
    · exact List.Subset.trans (ih h) (List.subset_append_right ..)

/-- The names in a branch are names of its select. -/
theorem argumentNames_subset_selectNames {key : String} {branches : List (String × List Node)}
    (h : (key, nodes) ∈ branches) : argumentNames nodes ⊆ selectNames branches := by
  induction branches with
  | nil => cases h
  | cons first branches ih =>
    obtain ⟨key', nodes'⟩ := first
    rw [selectNames]
    rcases List.mem_cons.mp h with h | h
    · rw [(Prod.mk.inj h).2]
      exact List.subset_append_left ..
    · exact List.Subset.trans (ih h) (List.subset_append_right ..)

/-- A name in use is one of the names in the tree. -/
theorem InUse.mem_argumentNames (h : InUse locale values name nodes) : name ∈ argumentNames nodes := by
  induction h with
  | asked h hname => exact nodeNames_subset h (mem_nodeNames_of_askedName? hname)
  | pluralBranch h _ hbody _ ih =>
    obtain ⟨key, hmem⟩ := mem_of_pluralBranch? hbody
    refine nodeNames_subset h ?_
    rw [nodeNames]
    exact List.mem_cons_of_mem _ (argumentNames_subset_pluralNames hmem ih)
  | selectBranch h _ hbody _ ih =>
    obtain ⟨key, hmem⟩ := mem_of_selectBranch? hbody
    refine nodeNames_subset h ?_
    rw [nodeNames]
    exact List.mem_cons_of_mem _ (argumentNames_subset_selectNames hmem ih)

/-! ## Only they matter -/

/-- Only the value of the name itself is looked up. -/
theorem valueOf_congr (h : values'.get? name = values.get? name) : valueOf values' name = valueOf values name := by
  rw [valueOf, valueOf, h]

/-- The same holds where a number is asked for. -/
theorem numberOf_congr (h : values'.get? name = values.get? name) : numberOf values' name = numberOf values name := by
  rw [numberOf, numberOf, valueOf_congr h]

/-- The names in use have the same values, if they have any. -/
def AgreesInUse (locale : String) (values values' : Variables) (nodes : List Node) : Prop :=
  ∀ name, InUse locale values name nodes → values'.get? name = values.get? name

mutual

/-- A node is rendered alike with the same values of the names in use, by recursion on the tree: what decides on a branch is in
use itself, so that the same branch is taken. -/
theorem renderNode_congr (node : Node) (pound : Option Number) (h : AgreesInUse locale values values' [node]) :
    renderNode locale values' pound node = renderNode locale values pound node := by
  match node with
  | .text _ => rw [renderNode, renderNode]
  | .pound => rw [renderNode, renderNode]
  | .argument name =>
    have hvalue := valueOf_congr (h name (.asked List.mem_cons_self rfl))
    rw [renderNode, renderNode, hvalue]
  | .number name =>
    have hnumber := numberOf_congr (h name (.asked List.mem_cons_self rfl))
    rw [renderNode, renderNode, hnumber]
  | .plural name offset branches =>
    have hnumber := numberOf_congr (h name (.asked List.mem_cons_self rfl))
    cases hx : numberOf values name with
    | error e =>
      rw [renderNode, renderNode, hnumber, hx]
      rfl
    | ok x =>
      rw [renderNode_plural hx, renderNode_plural (hnumber.trans hx)]
      cases hbody : pluralBranch? locale x (x.sub offset) branches with
      | none => rfl
      | some body =>
        obtain ⟨key, hmem⟩ := mem_of_pluralBranch? hbody
        exact renderNodes_congr body _ fun name hname => h name (.pluralBranch List.mem_cons_self hx hbody hname)
  | .select name branches =>
    have hvalue' := valueOf_congr (h name (.asked List.mem_cons_self rfl))
    cases hvalue : valueOf values name with
    | error e =>
      rw [renderNode, renderNode, hvalue', hvalue]
      rfl
    | ok value =>
      rw [renderNode_select hvalue, renderNode_select (hvalue'.trans hvalue)]
      cases hbody : selectBranch? value.display branches with
      | none => rfl
      | some body =>
        obtain ⟨key, hmem⟩ := mem_of_selectBranch? hbody
        exact renderNodes_congr body _ fun name hname => h name (.selectBranch List.mem_cons_self hvalue hbody hname)
  termination_by sizeOf node
  decreasing_by
    all_goals
      have hsize := List.sizeOf_lt_of_mem hmem
      simp only [Node.plural.sizeOf_spec, Node.select.sizeOf_spec, Prod.mk.sizeOf_spec] at hsize ⊢
      omega

/-- Values that agree on the names in use give the same text or the same error. -/
theorem renderNodes_congr (nodes : List Node) (pound : Option Number) (h : AgreesInUse locale values values' nodes) :
    renderNodes locale values' pound nodes = renderNodes locale values pound nodes := by
  match nodes with
  | [] => rw [renderNodes, renderNodes]
  | node :: nodes =>
    have hnode := renderNode_congr node pound fun name hname => h name (hname.mono (by simp))
    have hnodes := renderNodes_congr nodes pound fun name hname => h name (hname.mono (List.subset_cons_self ..))
    rw [renderNodes, renderNodes, hnode, hnodes]
  termination_by sizeOf nodes

end

/-! ## Each of them matters -/

/-- A node that is rendered has found a value for the name that it asks for. -/
theorem isSome_of_renderNode {node : Node} (hasked : askedName? node = some name)
    (h : renderNode locale values pound node = .ok text) : (values.get? name).isSome := by
  have hvalue : ∀ {e}, valueOf values name = .error e → renderNode locale values pound node = .error e := by
    intro e he
    have hnumber : numberOf values name = .error e := by rw [numberOf, he]; rfl
    cases node with
    | text | pound => cases hasked
    | argument | select =>
      obtain rfl := Option.some.inj hasked
      rw [renderNode, he]
      rfl
    | number | plural =>
      obtain rfl := Option.some.inj hasked
      rw [renderNode, hnumber]
      rfl
  cases hfound : valueOf values name with
  | ok value => rw [valueOf_eq_ok_iff.mp hfound]; rfl
  | error e => rw [hvalue hfound] at h; cases h

/-- A node that is rendered among others is rendered. -/
theorem exists_renderNode {node : Node} (hmem : node ∈ nodes) (h : renderNodes locale values pound nodes = .ok text) :
    ∃ t, renderNode locale values pound node = .ok t := by
  induction nodes generalizing text with
  | nil => cases hmem
  | cons first nodes ih =>
    obtain ⟨t, others, hfirst, hothers, -⟩ := renderNodes_cons_eq_ok_iff.mp h
    rcases List.mem_cons.mp hmem with rfl | hmem
    · exact ⟨t, hfirst⟩
    · exact ih hmem hothers

/-- Where there is a text, each name in use with these values, or with more of them, has a value: the branches that are taken
with more values are those that are taken. -/
theorem InUse.isSome (h : InUse locale values name nodes)
    (hvalues : ∀ n value, values'.get? n = some value → values.get? n = some value)
    (htext : renderNodes locale values' pound nodes = .ok text) : (values'.get? name).isSome := by
  induction h generalizing pound text with
  | asked h hname =>
    obtain ⟨t, ht⟩ := exists_renderNode h htext
    exact isSome_of_renderNode hname ht
  | @pluralBranch nodes body decider offset x branches h hx hbody hname ih =>
    obtain ⟨t, ht⟩ := exists_renderNode h htext
    obtain ⟨value, hvalue⟩ := Option.isSome_iff_exists.mp (isSome_of_renderNode rfl ht)
    have hx' : numberOf values' decider = .ok x := by
      rw [← hx]
      exact numberOf_congr (hvalue.trans (hvalues _ _ hvalue).symm)
    rw [renderNode_plural hx', hbody] at ht
    exact ih ht
  | @selectBranch nodes body decider value branches h hvalue hbody hname ih =>
    obtain ⟨t, ht⟩ := exists_renderNode h htext
    obtain ⟨value', hvalue'⟩ := Option.isSome_iff_exists.mp (isSome_of_renderNode rfl ht)
    have hfound : valueOf values' decider = .ok value := by
      rw [← hvalue]
      exact valueOf_congr (hvalue'.trans (hvalues _ _ hvalue').symm)
    rw [renderNode_select hfound, hbody] at ht
    exact ih ht

/-! ## Formatting -/

/-- A message that can be read is formatted by rendering what it is read as. -/
theorem format_of_read {message : String} (hread : read message = .ok nodes) :
    Formatter.standard.format message locale values = renderNodes locale values none nodes := by
  simp only [Formatter.standard, hread]
  rfl

/-- Formatting looks only at the values of the names in the tree of the message: with the same values for them the result is
the same, be it a text or an error. Where it is a text, it stays with all values that are added; and a value can be taken away
exactly if its name is not in use, so that it occurs only in branches that are not taken. -/
theorem format_looksAt (message locale : String) (values : Variables) :
    (∀ values', (∀ nodes, read message = .ok nodes → ∀ name ∈ argumentNames nodes, values'.get? name = values.get? name) →
      Formatter.standard.format message locale values' = Formatter.standard.format message locale values) ∧
    ∀ text, Formatter.standard.format message locale values = .ok text →
      (∀ values', (∀ name value, values.get? name = some value → values'.get? name = some value) →
        Formatter.standard.format message locale values' = .ok text) ∧
      ∃ nodes, read message = .ok nodes ∧ ∀ name values', values'.get? name = none →
        (∀ other, other ≠ name → values'.get? other = values.get? other) →
        (Formatter.standard.format message locale values' = .ok text ↔ ¬InUse locale values name nodes) := by
  cases hread : read message with
  | error e =>
    have herror : ∀ values, Formatter.standard.format message locale values = .error e := fun values =>
      format_of_read_error hread
    refine ⟨fun values' _ => (herror values').trans (herror values).symm, fun text htext => ?_⟩
    rw [herror] at htext
    cases htext
  | ok nodes =>
    simp only [format_of_read hread, Except.ok.injEq, exists_eq_left', forall_eq']
    refine ⟨fun values' hsame => renderNodes_congr nodes none fun name hname => hsame name hname.mem_argumentNames,
      fun text htext => ⟨fun values' hmore => ?_, fun name values' hnone hothers => ⟨fun htext' hname => ?_, fun hname => ?_⟩⟩⟩
    · exact keeps_renderNodes nodes none (fun name _ => hmore name) text htext
    · have hfewer : ∀ n value, values'.get? n = some value → values.get? n = some value := by
        intro n value hvalue
        have hne : n ≠ name := by
          rintro rfl
          rw [hnone] at hvalue
          cases hvalue
        exact hothers n hne ▸ hvalue
      have hsome := hname.isSome hfewer htext'
      rw [hnone] at hsome
      cases hsome
    · rw [← htext]
      refine renderNodes_congr nodes none fun other hother => hothers other ?_
      rintro rfl
      exact hname hother

namespace NamesInUseWitness

/-- A plural of which the other branch holds a select. -/
def ticket : String :=
  "\x7bn,plural,one\x7b# for \x7bowner\x7d\x7d other\x7b# \x7bkind,select,other\x7b\x7bseat\x7d\x7d\x7d\x7d\x7d"

/-- One ticket with its owner, and no seat. -/
def single : Variables := .ofList [("n", .text "1"), ("owner", .text "Ada")]

/-- With a value for a name that only the branch that is not taken looks at. -/
def seated : Variables := single.insert "seat" (.text "4b")

/-- With a value for a name that the message does not have. -/
def dated : Variables := seated.insert "day" (.text "Monday")

end NamesInUseWitness

open NamesInUseWitness in
/-- Neither the seat, whose branch is not taken, nor a date, which no node asks for, changes the text. -/
theorem format_looksAt_ticket :
    Formatter.standard.format ticket "en" dated = Formatter.standard.format ticket "en" seated ∧
      Formatter.standard.format ticket "en" dated = .ok "1 for Ada" ∧
      ∃ nodes, read ticket = .ok nodes ∧ ¬InUse "en" seated "seat" nodes := by
  have hformat : Formatter.standard.format ticket "en" seated = .ok "1 for Ada" := by decide +kernel
  have hsingle : Formatter.standard.format ticket "en" single = .ok "1 for Ada" := by decide +kernel
  have hnames : (read ticket).toOption.map argumentNames = some ["n", "owner", "kind", "seat"] := by decide +kernel
  have hdated : ∀ name, name ≠ "day" → dated.get? name = seated.get? name := fun name hne => by
    rw [dated, OrderedMap.get?_insert, if_neg hne]
  obtain ⟨hsame, htext⟩ := format_looksAt ticket "en" seated
  obtain ⟨hmore, nodes, hread, hinUse⟩ := htext _ hformat
  refine ⟨hsame dated fun nodes' hread' name hname => hdated name ?_, hmore dated fun name value hvalue => ?_, nodes, hread, ?_⟩
  · rw [hread', Except.toOption, Option.map_some, Option.some_inj] at hnames
    rw [hnames] at hname
    rintro rfl
    revert hname
    decide
  · have hne : name ≠ "day" := by
      rintro rfl
      cases hvalue
    rw [hdated name hne, hvalue]
  · refine (hinUse "seat" single rfl fun other hne => ?_).mp hsingle
    rw [seated, OrderedMap.get?_insert, if_neg hne]

end Phrasebook.Message
