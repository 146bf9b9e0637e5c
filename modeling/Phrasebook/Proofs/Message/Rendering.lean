import Phrasebook.Message.Format
import Phrasebook.Proofs.Message.Grammar

/-!
# Trees that are rendered alike

A tree may take the place of another one if it has the same text wherever that one has a text (`Keeps`). Nodes can be
replaced one by one, branches under their keys, and an argument can be replaced by the text of its value.
-/

namespace Phrasebook.Message

variable {locale : String} {values : Variables} {pound : Option Number} {node node' : Node} {nodes nodes' : List Node}
  {out : List Char} {text : String}

/-- The second result is the first one if that is a text. -/
def Keeps (result result' : Except FormatError String) : Prop := ∀ t, result = .ok t → result' = .ok t

/-- Every result may stand for itself. -/
theorem Keeps.refl (result : Except FormatError String) : Keeps result result := fun _ h => h

/-! ## Nodes -/

/-- Nodes have a text if each of them has one. -/
theorem renderNodes_cons_eq_ok_iff : renderNodes locale values pound (node :: nodes) = .ok text ↔
    ∃ first others, renderNode locale values pound node = .ok first ∧
      renderNodes locale values pound nodes = .ok others ∧ text = first ++ others := by
  rw [renderNodes]
  cases renderNode locale values pound node with
  | error e => simp [bind, Except.bind]
  | ok first =>
    cases renderNodes locale values pound nodes with
    | error e => simp [bind, Except.bind]
    | ok others => simp [bind, Except.bind, pure, Except.pure, eq_comm]

/-- Text in front of nodes is rendered as it is. -/
theorem renderNodes_text_eq_ok_iff {s : String} : renderNodes locale values pound (.text s :: nodes) = .ok text ↔
    ∃ others, renderNodes locale values pound nodes = .ok others ∧ text = s ++ others := by
  rw [renderNodes_cons_eq_ok_iff]
  constructor
  · rintro ⟨first, others, hfirst, hothers, rfl⟩
    rw [renderNode] at hfirst
    obtain rfl := Except.ok.inj hfirst
    exact ⟨others, hothers, rfl⟩
  · rintro ⟨others, hothers, rfl⟩
    exact ⟨s, others, by rw [renderNode], hothers, rfl⟩

/-- Text in front of nodes stands in front of their text. -/
theorem renderNodes_prepend_eq_ok_iff : renderNodes locale values pound (prepend out nodes) = .ok text ↔
    ∃ others, renderNodes locale values pound nodes = .ok others ∧ text = String.ofList out ++ others := by
  unfold prepend
  split
  · next s nodes =>
    -- the characters become part of the text that is there already
    simp only [renderNodes_text_eq_ok_iff, String.ofList_append, String.ofList_toList]
    constructor
    · rintro ⟨others, hothers, rfl⟩
      exact ⟨s ++ others, ⟨others, hothers, rfl⟩, String.append_assoc ..⟩
    · rintro ⟨_, ⟨others, hothers, rfl⟩, rfl⟩
      exact ⟨others, hothers, (String.append_assoc ..).symm⟩
  · unfold consText
    split
    · next hempty =>
      rw [List.isEmpty_iff.mp hempty]
      simp
    · exact renderNodes_text_eq_ok_iff

/-- A node and the nodes behind it may be replaced each by itself. -/
theorem keeps_cons (hnode : Keeps (renderNode locale values pound node) (renderNode locale values pound node'))
    (hnodes : Keeps (renderNodes locale values pound nodes) (renderNodes locale values pound nodes')) :
    Keeps (renderNodes locale values pound (node :: nodes)) (renderNodes locale values pound (node' :: nodes')) := by
  intro t ht
  obtain ⟨first, others, hfirst, hothers, rfl⟩ := renderNodes_cons_eq_ok_iff.mp ht
  exact renderNodes_cons_eq_ok_iff.mpr ⟨first, others, hnode _ hfirst, hnodes _ hothers, rfl⟩

/-- The same text may be put in front of nodes that keep what others give. -/
theorem keeps_prepend (hnodes : Keeps (renderNodes locale values pound nodes) (renderNodes locale values pound nodes')) :
    Keeps (renderNodes locale values pound (prepend out nodes)) (renderNodes locale values pound (prepend out nodes')) := by
  intro t ht
  obtain ⟨others, hothers, rfl⟩ := renderNodes_prepend_eq_ok_iff.mp ht
  exact renderNodes_prepend_eq_ok_iff.mpr ⟨others, hnodes _ hothers, rfl⟩

/-- The text of a value takes the place of the argument. -/
theorem keeps_argument {name : String} {value : Value} (hvalue : values.get? name = some value)
    (hnodes : Keeps (renderNodes locale values pound nodes) (renderNodes locale values pound nodes')) :
    Keeps (renderNodes locale values pound (.argument name :: nodes))
      (renderNodes locale values pound (prepend value.display.toList nodes')) := by
  intro t ht
  obtain ⟨first, others, hfirst, hothers, rfl⟩ := renderNodes_cons_eq_ok_iff.mp ht
  have hdisplay : value.display = first := by
    simp only [renderNode, valueOf, hvalue] at hfirst
    exact Except.ok.inj hfirst
  refine renderNodes_prepend_eq_ok_iff.mpr ⟨others, hnodes _ hothers, ?_⟩
  rw [String.ofList_toList, hdisplay]

/-! ## Branches -/

/-- Of the branches that are tried in turn, each may be replaced by itself. -/
theorem rel_orElse {a a' b b' : Option (Except FormatError String)} (ha : Option.Rel Keeps a a')
    (hb : Option.Rel Keeps b b') : Option.Rel Keeps (a <|> b) (a' <|> b') := by
  cases ha with
  | none => simpa using hb
  | some h => exact .some h

/-- If no branch is found on either side the error is the same. -/
theorem keeps_getD {a a' : Option (Except FormatError String)} (ha : Option.Rel Keeps a a') (e : FormatError) :
    Keeps (a.getD (.error e)) (a'.getD (.error e)) := by
  cases ha with
  | none => exact .refl _
  | some h => exact h

/-- The first branch of a plural may be replaced under its key. -/
theorem rel_renderPlural_cons {key : PluralKey} {branches branches' : List (PluralKey × List Node)} {p : PluralKey → Bool}
    (hnodes : Keeps (renderNodes locale values pound nodes) (renderNodes locale values pound nodes'))
    (hbranches : Option.Rel Keeps (renderPlural locale values pound p branches)
      (renderPlural locale values pound p branches')) :
    Option.Rel Keeps (renderPlural locale values pound p ((key, nodes) :: branches))
      (renderPlural locale values pound p ((key, nodes') :: branches')) := by
  rw [renderPlural, renderPlural]
  split
  · exact .some hnodes
  · exact hbranches

/-- The first branch of a choice may be replaced under its key. -/
theorem rel_renderSelect_cons {key : String} {branches branches' : List (String × List Node)} {p : String → Bool}
    (hnodes : Keeps (renderNodes locale values pound nodes) (renderNodes locale values pound nodes'))
    (hbranches : Option.Rel Keeps (renderSelect locale values pound p branches)
      (renderSelect locale values pound p branches')) :
    Option.Rel Keeps (renderSelect locale values pound p ((key, nodes) :: branches))
      (renderSelect locale values pound p ((key, nodes') :: branches')) := by
  rw [renderSelect, renderSelect]
  split
  · exact .some hnodes
  · exact hbranches

/-- A plural may be replaced by one with the same name and offset if its branches may. -/
theorem keeps_plural {name : String} {offset : Number} {branches branches' : List (PluralKey × List Node)}
    (h : ∀ pound p, Option.Rel Keeps (renderPlural locale values pound p branches)
      (renderPlural locale values pound p branches')) :
    Keeps (renderNode locale values pound (.plural name offset branches))
      (renderNode locale values pound (.plural name offset branches')) := by
  rw [renderNode, renderNode]
  cases numberOf values name with
  | error e => exact .refl _
  | ok x => exact keeps_getD (rel_orElse (h _ _) (rel_orElse (h _ _) (h _ _))) _

/-- A select may be replaced by one with the same name if its branches may. -/
theorem keeps_select {name : String} {branches branches' : List (String × List Node)}
    (h : ∀ p, Option.Rel Keeps (renderSelect locale values pound p branches)
      (renderSelect locale values pound p branches')) :
    Keeps (renderNode locale values pound (.select name branches))
      (renderNode locale values pound (.select name branches')) := by
  rw [renderNode, renderNode]
  cases valueOf values name with
  | error e => exact .refl _
  | ok value => exact keeps_getD (rel_orElse (h _) (h _)) _

end Phrasebook.Message
