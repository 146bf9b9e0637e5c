import Phrasebook.Proofs.Message.Failures
import Phrasebook.Proofs.Message.Rendering

/-!
# The values that rendering looks at

A message that is rendered stays as it is when other values are given, as long as the values of the names in it are kept
(`keeps_renderNodes`). Values of other names, and values for names that had none, do not matter.
-/

namespace Phrasebook.Message

variable {locale name : String} {values values' : Variables} {names : List String}

/-- The names that have a value keep it. -/
def KeepsValues (names : List String) (values values' : Variables) : Prop :=
  ∀ name ∈ names, ∀ value, values.get? name = some value → values'.get? name = some value

/-- Fewer names ask for less. -/
theorem KeepsValues.mono {names' : List String} (h : KeepsValues names' values values') (hnames : names ⊆ names') :
    KeepsValues names values values' := fun name hname => h name (hnames hname)

/-- A number is there if there is a value that is one. -/
theorem numberOf_eq_ok_iff {x : Number} :
    numberOf values name = .ok x ↔ ∃ value, values.get? name = some value ∧ value.number? = some x := by
  unfold numberOf
  cases hvalue : valueOf values name with
  | error e =>
    have hnone : ∀ value, values.get? name ≠ some value := by
      intro value hsome
      rw [valueOf_eq_ok_iff.mpr hsome] at hvalue
      cases hvalue
    exact iff_of_false nofun fun ⟨value, hsome, _⟩ => hnone value hsome
  | ok value =>
    rw [valueOf_eq_ok_iff.mp hvalue]
    simp only [bind, Except.bind, Option.some.injEq, exists_eq_left']
    cases value.number? with
    | none => simp
    | some y => simp

/-- A number that is found is found among the values that are kept. -/
theorem KeepsValues.numberOf {x : Number} (h : KeepsValues names values values') (hname : name ∈ names)
    (hx : numberOf values name = .ok x) : numberOf values' name = .ok x := by
  obtain ⟨value, hvalue, hnumber⟩ := numberOf_eq_ok_iff.mp hx
  exact numberOf_eq_ok_iff.mpr ⟨value, h name hname value hvalue, hnumber⟩

/-- A value that is kept is the value of its name. -/
theorem KeepsValues.valueOf {value : Value} (h : KeepsValues names values values') (hname : name ∈ names)
    (hvalue : valueOf values name = .ok value) : valueOf values' name = .ok value :=
  valueOf_eq_ok_iff.mpr (h name hname value (valueOf_eq_ok_iff.mp hvalue))

mutual

/-- A node is rendered alike with the values of its names, by recursion on the tree. -/
theorem keeps_renderNode : (node : Node) → (pound : Option Number) → KeepsValues (nodeNames node) values values' →
    Keeps (renderNode locale values pound node) (renderNode locale values' pound node)
  | .text s, pound, h => by
    rw [renderNode, renderNode]
    exact .refl _
  | .pound, pound, h => by
    rw [renderNode, renderNode]
    exact .refl _
  | .argument name, pound, h => by
    intro t ht
    rw [renderNode] at ht ⊢
    cases hvalue : valueOf values name with
    | error e =>
      rw [hvalue] at ht
      cases ht
    | ok value =>
      rw [hvalue] at ht
      rw [h.valueOf List.mem_cons_self hvalue]
      exact ht
  | .number name, pound, h => by
    intro t ht
    rw [renderNode] at ht ⊢
    cases hnumber : numberOf values name with
    | error e =>
      rw [hnumber] at ht
      cases ht
    | ok x =>
      rw [hnumber] at ht
      rw [h.numberOf List.mem_cons_self hnumber]
      exact ht
  | .plural name offset branches, pound, h => by
    intro t ht
    rw [renderNode] at ht ⊢
    cases hnumber : numberOf values name with
    | error e =>
      rw [hnumber] at ht
      cases ht
    | ok x =>
      have hbranches := rel_renderPlural branches (some (x.sub offset)) (h.mono (List.subset_cons_self _ _))
      rw [hnumber] at ht
      rw [h.numberOf List.mem_cons_self hnumber]
      exact keeps_getD (rel_orElse (hbranches _) (rel_orElse (hbranches _) (hbranches _))) _ t ht
  | .select name branches, pound, h => by
    intro t ht
    rw [renderNode] at ht ⊢
    cases hvalue : valueOf values name with
    | error e =>
      rw [hvalue] at ht
      cases ht
    | ok value =>
      have hbranches := rel_renderSelect branches pound (h.mono (List.subset_cons_self _ _))
      rw [hvalue] at ht
      rw [h.valueOf List.mem_cons_self hvalue]
      exact keeps_getD (rel_orElse (hbranches _) (hbranches _)) _ t ht

/-- Nodes are rendered one after the other, each with the values of its own names. -/
theorem keeps_renderNodes : (nodes : List Node) → (pound : Option Number) →
    KeepsValues (argumentNames nodes) values values' →
    Keeps (renderNodes locale values pound nodes) (renderNodes locale values' pound nodes)
  | [], pound, h => by
    rw [renderNodes, renderNodes]
    exact .refl _
  | node :: nodes, pound, h => by
    intro t ht
    obtain ⟨first, others, hfirst, hothers, rfl⟩ := renderNodes_cons_eq_ok_iff.mp ht
    have hnode := keeps_renderNode node pound (h.mono (List.subset_append_left _ _)) _ hfirst
    have hnodes := keeps_renderNodes nodes pound (h.mono (List.subset_append_right _ _)) _ hothers
    exact renderNodes_cons_eq_ok_iff.mpr ⟨first, others, hnode, hnodes, rfl⟩

/-- The branch that is taken does not depend on the values, only what it is rendered as does. -/
theorem rel_renderPlural : (branches : List (PluralKey × List Node)) → (pound : Option Number) →
    KeepsValues (pluralNames branches) values values' → (p : PluralKey → Bool) →
    Option.Rel Keeps (renderPlural locale values pound p branches) (renderPlural locale values' pound p branches)
  | [], pound, h, p => by
    rw [renderPlural, renderPlural]
    exact .none
  | (key, nodes) :: branches, pound, h, p => by
    rw [renderPlural, renderPlural]
    split
    · exact .some (keeps_renderNodes nodes pound (h.mono (List.subset_append_left _ _)))
    · exact rel_renderPlural branches pound (h.mono (List.subset_append_right _ _)) p

/-- The same for the branches of a select. -/
theorem rel_renderSelect : (branches : List (String × List Node)) → (pound : Option Number) →
    KeepsValues (selectNames branches) values values' → (p : String → Bool) →
    Option.Rel Keeps (renderSelect locale values pound p branches) (renderSelect locale values' pound p branches)
  | [], pound, h, p => by
    rw [renderSelect, renderSelect]
    exact .none
  | (key, nodes) :: branches, pound, h, p => by
    rw [renderSelect, renderSelect]
    split
    · exact .some (keeps_renderNodes nodes pound (h.mono (List.subset_append_left _ _)))
    · exact rel_renderSelect branches pound (h.mono (List.subset_append_right _ _)) p

end

end Phrasebook.Message
