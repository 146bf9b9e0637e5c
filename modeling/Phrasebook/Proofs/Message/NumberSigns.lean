import Phrasebook.Proofs.Message.Failures

/-!
# What number signs stand for

A number sign belongs to the nearest plural around it in the text, however many selects stand between. In a bound tree every
sign says what its plural counts (`bindNodes?`), so that such a tree is shown without knowing where in a message it stands
(`showNodes`). The renderer, which takes the number of a plural along on its way into the branches, gives the same text
(`format_eq_showNodes`).
-/

namespace Phrasebook.Message

/-! ## Bound trees -/

/-- What a plural counts: the value of an argument less an offset. -/
structure Counted where
  name : String
  offset : Number
  deriving Repr

/-- A part of a message of which the number signs say what they stand for. -/
inductive BoundNode where
  | text (s : String)
  | argument (name : String)
  | number (name : String)
  | plural (counted : Counted) (branches : List (PluralKey × List BoundNode))
  | select (name : String) (branches : List (String × List BoundNode))
  /-- The number that a plural around counts. -/
  | sign (counted : Counted)
  deriving Repr

mutual

/-- The node with its number signs bound; `around` is what the nearest plural around counts, without which there is no number
for a sign. -/
def bindNode? (around : Option Counted) : Node → Option BoundNode
  | .text s => some (.text s)
  | .argument name => some (.argument name)
  | .number name => some (.number name)
  | .plural name offset branches => (bindPlural? ⟨name, offset⟩ branches).map (.plural ⟨name, offset⟩)
  | .select name branches => (bindSelect? around branches).map (.select name)
  | .pound => around.map .sign

/-- The message with its number signs bound. -/
def bindNodes? (around : Option Counted) : List Node → Option (List BoundNode)
  | [] => some []
  | node :: nodes => do return (← bindNode? around node) :: (← bindNodes? around nodes)

/-- The branches of a plural, which is the nearest around each of them. -/
def bindPlural? (counted : Counted) : List (PluralKey × List Node) → Option (List (PluralKey × List BoundNode))
  | [] => some []
  | (key, nodes) :: branches => do return (key, ← bindNodes? (some counted) nodes) :: (← bindPlural? counted branches)

/-- The branches of a select, around which is the plural around the select. -/
def bindSelect? (around : Option Counted) : List (String × List Node) → Option (List (String × List BoundNode))
  | [] => some []
  | (key, nodes) :: branches => do return (key, ← bindNodes? around nodes) :: (← bindSelect? around branches)

end

variable {locale : String} {values : Variables} {around : Option Counted} {pound : Option Number} {name : String}

mutual

/-- In a message that is well formed every number sign is bound. -/
theorem exists_bindNode? : (node : Node) → (around : Option Counted) → IsNode around.isSome node →
    ∃ bound, bindNode? around node = some bound
  | .text s, around, hnode => ⟨_, by rw [bindNode?]⟩
  | .argument name, around, hnode => ⟨_, by rw [bindNode?]⟩
  | .number name, around, hnode => ⟨_, by rw [bindNode?]⟩
  | .plural name offset branches, around, hnode => by
    rw [IsNode] at hnode
    obtain ⟨bound, hbound⟩ := exists_bindPlural? branches ⟨name, offset⟩ hnode.2.2.2
    exact ⟨_, by rw [bindNode?, hbound, Option.map_some]⟩
  | .select name branches, around, hnode => by
    rw [IsNode] at hnode
    obtain ⟨bound, hbound⟩ := exists_bindSelect? branches around hnode.2.2
    exact ⟨_, by rw [bindNode?, hbound, Option.map_some]⟩
  | .pound, around, hnode => by
    rw [IsNode] at hnode
    obtain ⟨counted, rfl⟩ := Option.isSome_iff_exists.mp hnode
    exact ⟨_, by rw [bindNode?, Option.map_some]⟩

theorem exists_bindNodes? : (nodes : List Node) → (around : Option Counted) → AreNodes around.isSome nodes →
    ∃ bound, bindNodes? around nodes = some bound
  | [], around, hnodes => ⟨_, by rw [bindNodes?]⟩
  | node :: nodes, around, hnodes => by
    rw [AreNodes] at hnodes
    obtain ⟨first, hfirst⟩ := exists_bindNode? node around hnodes.1
    obtain ⟨others, hothers⟩ := exists_bindNodes? nodes around hnodes.2.2
    exact ⟨first :: others, by rw [bindNodes?, hfirst, hothers]; rfl⟩

theorem exists_bindPlural? : (branches : List (PluralKey × List Node)) → (counted : Counted) →
    ArePluralBranches branches → ∃ bound, bindPlural? counted branches = some bound
  | [], counted, hbranches => ⟨_, by rw [bindPlural?]⟩
  | (key, nodes) :: branches, counted, hbranches => by
    rw [ArePluralBranches] at hbranches
    obtain ⟨first, hfirst⟩ := exists_bindNodes? nodes (some counted) hbranches.2.1
    obtain ⟨others, hothers⟩ := exists_bindPlural? branches counted hbranches.2.2
    exact ⟨(key, first) :: others, by rw [bindPlural?, hfirst, hothers]; rfl⟩

theorem exists_bindSelect? : (branches : List (String × List Node)) → (around : Option Counted) →
    AreSelectBranches around.isSome branches → ∃ bound, bindSelect? around branches = some bound
  | [], around, hbranches => ⟨_, by rw [bindSelect?]⟩
  | (key, nodes) :: branches, around, hbranches => by
    rw [AreSelectBranches] at hbranches
    obtain ⟨first, hfirst⟩ := exists_bindNodes? nodes around hbranches.2.1
    obtain ⟨others, hothers⟩ := exists_bindSelect? branches around hbranches.2.2
    exact ⟨(key, first) :: others, by rw [bindSelect?, hfirst, hothers]; rfl⟩

end

/-! ## Their texts -/

/-- The number that a plural counts. -/
def Counted.number (values : Variables) (counted : Counted) : Except FormatError Number := do
  return (← numberOf values counted.name).sub counted.offset

/-- The first of the branches with a key that satisfies `p`, wherever it stands. -/
def firstWith? {κ α : Type} (p : κ → Bool) (branches : List (κ × α)) : Option α :=
  (branches.find? fun branch => p branch.1).map Prod.snd

theorem firstWith?_cons {κ α : Type} (p : κ → Bool) (key : κ) (a : α) (branches : List (κ × α)) :
    firstWith? p ((key, a) :: branches) = if p key then some a else firstWith? p branches := by
  cases hkey : p key <;> simp [firstWith?, hkey]

/-- The branch of a plural for a value: the first for exactly this value, or else the first for the category of the number
that is counted, or else the first `other` branch. -/
def pluralBranch? {α : Type} (locale : String) (x counted : Number) (branches : List (PluralKey × α)) : Option α :=
  firstWith? (PluralKey.isExactly x) branches
    <|> firstWith? (PluralKey.isCategory (.ofNumber locale counted)) branches
    <|> firstWith? (PluralKey.isCategory .other) branches

/-- The branch of a select for a text: the first with this key, or else the first `other` branch. -/
def selectBranch? {α : Type} (text : String) (branches : List (String × α)) : Option α :=
  firstWith? (· == text) branches <|> firstWith? (· == "other") branches

mutual

/-- The text of a bound node. -/
def showNode (locale : String) (values : Variables) : BoundNode → Except FormatError String
  | .text s => .ok s
  | .argument name => do return (← valueOf values name).display
  | .number name => do return (← numberOf values name).grouped locale
  | .plural counted branches => do
    let x ← numberOf values counted.name
    (pluralBranch? locale x (x.sub counted.offset) (showPlural locale values branches)).getD
      (.error (.missingOther counted.name))
  | .select name branches => do
    let value ← valueOf values name
    (selectBranch? value.display (showSelect locale values branches)).getD (.error (.missingOther name))
  | .sign counted => do return (← counted.number values).grouped locale

/-- The text of a bound message. -/
def showNodes (locale : String) (values : Variables) : List BoundNode → Except FormatError String
  | [] => .ok ""
  | node :: nodes => do return (← showNode locale values node) ++ (← showNodes locale values nodes)

/-- The texts of the branches of a plural. -/
def showPlural (locale : String) (values : Variables) :
    List (PluralKey × List BoundNode) → List (PluralKey × Except FormatError String)
  | [] => []
  | (key, nodes) :: branches => (key, showNodes locale values nodes) :: showPlural locale values branches

/-- The texts of the branches of a select. -/
def showSelect (locale : String) (values : Variables) :
    List (String × List BoundNode) → List (String × Except FormatError String)
  | [] => []
  | (key, nodes) :: branches => (key, showNodes locale values nodes) :: showSelect locale values branches

end

/-! ## Rendering -/

/-- The renderer takes along the number that the plural around counts. -/
def TakesAlong (values : Variables) (around : Option Counted) (pound : Option Number) : Prop :=
  ∀ counted, around = some counted → ∃ x, counted.number values = .ok x ∧ pound = some x

theorem takesAlong_none : TakesAlong values none pound := fun _ h => by cases h

/-- On the way into a branch of a plural the number of this plural is taken along instead. -/
theorem takesAlong_of_numberOf {x : Number} (h : numberOf values name = .ok x) (offset : Number) :
    TakesAlong values (some ⟨name, offset⟩) (some (x.sub offset)) := by
  rintro counted ⟨rfl⟩
  exact ⟨x.sub offset, by rw [Counted.number, h]; rfl, rfl⟩

/-- Where two parts are bound together, each of them is bound. -/
theorem eq_some_of_both {α β γ : Type} {a : Option α} {b : Option β} {f : α → β → γ} {r : γ}
    (h : (do return f (← a) (← b)) = some r) : ∃ x y, a = some x ∧ b = some y ∧ r = f x y := by
  obtain ⟨x, hx, h⟩ := Option.bind_eq_some_iff.mp h
  obtain ⟨y, hy, h⟩ := Option.bind_eq_some_iff.mp h
  exact ⟨x, y, hx, hy, (Option.some.inj h).symm⟩

mutual

/-- A node is rendered with what the renderer takes along as it is shown when it is bound. -/
theorem renderNode_eq_showNode : (node : Node) → {around : Option Counted} → {pound : Option Number} → {bound : BoundNode} →
    bindNode? around node = some bound → TakesAlong values around pound →
    renderNode locale values pound node = showNode locale values bound
  | .text s, around, pound, bound, hbound, hpound => by
    rw [bindNode?] at hbound
    obtain rfl := Option.some.inj hbound
    rw [renderNode, showNode]
  | .argument name, around, pound, bound, hbound, hpound => by
    rw [bindNode?] at hbound
    obtain rfl := Option.some.inj hbound
    rw [renderNode, showNode]
  | .number name, around, pound, bound, hbound, hpound => by
    rw [bindNode?] at hbound
    obtain rfl := Option.some.inj hbound
    rw [renderNode, showNode]
  | .plural name offset branches, around, pound, bound, hbound, hpound => by
    rw [bindNode?] at hbound
    obtain ⟨shown, hshown, rfl⟩ := Option.map_eq_some_iff.mp hbound
    rw [renderNode, showNode]
    cases hx : numberOf values name with
    | error e => rfl
    | ok x =>
      have hbranch : ∀ p, renderPlural locale values (some (x.sub offset)) p branches =
          firstWith? p (showPlural locale values shown) := fun p =>
        renderPlural_eq_firstWith? branches hshown (takesAlong_of_numberOf hx offset)
      simp only [bind, Except.bind, pluralBranch?, hbranch]
  | .select name branches, around, pound, bound, hbound, hpound => by
    rw [bindNode?] at hbound
    obtain ⟨shown, hshown, rfl⟩ := Option.map_eq_some_iff.mp hbound
    rw [renderNode, showNode]
    cases hvalue : valueOf values name with
    | error e => rfl
    | ok value =>
      have hbranch : ∀ p, renderSelect locale values pound p branches =
          firstWith? p (showSelect locale values shown) := fun p =>
        renderSelect_eq_firstWith? branches hshown hpound
      simp only [bind, Except.bind, selectBranch?, hbranch]
  | .pound, around, pound, bound, hbound, hpound => by
    rw [bindNode?] at hbound
    obtain ⟨counted, hcounted, rfl⟩ := Option.map_eq_some_iff.mp hbound
    obtain ⟨x, hx, rfl⟩ := hpound counted hcounted
    rw [renderNode, showNode, hx]
    rfl

theorem renderNodes_eq_showNodes : (nodes : List Node) → {around : Option Counted} → {pound : Option Number} →
    {bound : List BoundNode} → bindNodes? around nodes = some bound → TakesAlong values around pound →
    renderNodes locale values pound nodes = showNodes locale values bound
  | [], around, pound, bound, hbound, hpound => by
    rw [bindNodes?] at hbound
    obtain rfl := Option.some.inj hbound
    rw [renderNodes, showNodes]
  | node :: nodes, around, pound, bound, hbound, hpound => by
    rw [bindNodes?] at hbound
    obtain ⟨first, others, hfirst, hothers, rfl⟩ := eq_some_of_both hbound
    rw [renderNodes, showNodes, renderNode_eq_showNode node hfirst hpound, renderNodes_eq_showNodes nodes hothers hpound]

theorem renderPlural_eq_firstWith? : (branches : List (PluralKey × List Node)) → {counted : Counted} →
    {pound : Option Number} → {bound : List (PluralKey × List BoundNode)} → {p : PluralKey → Bool} →
    bindPlural? counted branches = some bound → TakesAlong values (some counted) pound →
    renderPlural locale values pound p branches = firstWith? p (showPlural locale values bound)
  | [], counted, pound, bound, p, hbound, hpound => by
    rw [bindPlural?] at hbound
    obtain rfl := Option.some.inj hbound
    rw [renderPlural, showPlural]
    rfl
  | (key, nodes) :: branches, counted, pound, bound, p, hbound, hpound => by
    rw [bindPlural?] at hbound
    obtain ⟨first, others, hfirst, hothers, rfl⟩ := eq_some_of_both hbound
    rw [renderPlural, showPlural, firstWith?_cons, renderNodes_eq_showNodes nodes hfirst hpound,
      renderPlural_eq_firstWith? branches hothers hpound]

theorem renderSelect_eq_firstWith? : (branches : List (String × List Node)) → {around : Option Counted} →
    {pound : Option Number} → {bound : List (String × List BoundNode)} → {p : String → Bool} →
    bindSelect? around branches = some bound → TakesAlong values around pound →
    renderSelect locale values pound p branches = firstWith? p (showSelect locale values bound)
  | [], around, pound, bound, p, hbound, hpound => by
    rw [bindSelect?] at hbound
    obtain rfl := Option.some.inj hbound
    rw [renderSelect, showSelect]
    rfl
  | (key, nodes) :: branches, around, pound, bound, p, hbound, hpound => by
    rw [bindSelect?] at hbound
    obtain ⟨first, others, hfirst, hothers, rfl⟩ := eq_some_of_both hbound
    rw [renderSelect, showSelect, firstWith?_cons, renderNodes_eq_showNodes nodes hfirst hpound,
      renderSelect_eq_firstWith? branches hothers hpound]

end

/-- A message that is read is the text of a tree in which every number sign has a nearest plural around, and it is formatted as
this tree is shown when each sign stands for the number that this plural counts: each plural as its first branch for the
exact value, or else its first one for the category of the number that it counts, or else its first `other` branch, of which
there is one. -/
theorem format_eq_showNodes {message : String} {nodes : List Node} (hread : read message = .ok nodes) :
    ∃ places bound, Reads (.nodes .off false false nodes) message.toList [] places ∧ bindNodes? none nodes = some bound ∧
      ∀ locale values, Formatter.standard.format message locale values = showNodes locale values bound ∧
        ∀ name, showNodes locale values bound ≠ .error (.missingOther name) := by
  have hnodes := areNodes_of_read hread
  obtain ⟨places, hreads⟩ := read_eq_ok_iff.mp hread
  obtain ⟨bound, hbound⟩ := exists_bindNodes? nodes none hnodes
  refine ⟨places, bound, hreads, hbound, fun locale values => ?_⟩
  have hshown : renderNodes locale values none nodes = showNodes locale values bound :=
    renderNodes_eq_showNodes nodes hbound takesAlong_none
  refine ⟨?_, fun name h => ?_⟩
  · simp only [Formatter.standard, hread, ← hshown]
    rfl
  · rw [← hshown] at h
    cases (isOfValue_of_renderNodes nodes hnodes h).isOfText

namespace NumberSignsWitness

/-- A plural with an offset, whose branch for the exact value stands behind the one for the category of what it counts; in a
select inside it another plural stands between two number signs. -/
def table : String :=
  "\x7bn,plural,offset:1 one\x7b\x7d =2\x7b#: \x7bseat,select,other\x7b# \x7bm,plural,other\x7b(#)\x7d\x7d #\x7d\x7d\x7d other\x7b\x7d\x7d"

def guests : Variables := .ofList [("n", .text "2"), ("m", .text "7"), ("seat", .text "a")]

end NumberSignsWitness

open NumberSignsWitness in
theorem format_eq_showNodes_table : ∃ nodes bound, read table = .ok nodes ∧ bindNodes? none nodes = some bound ∧
    (showNodes "en" guests bound).toOption = some "1: 1 (7) 1" := by
  have hformat : (Formatter.standard.format table "en" guests).toOption = some "1: 1 (7) 1" := by decide +kernel
  obtain ⟨nodes, hread⟩ : ∃ nodes, read table = .ok nodes := by
    cases hread : read table with
    | ok nodes => exact ⟨nodes, rfl⟩
    | error e =>
      rw [format_of_read_error hread] at hformat
      cases hformat
  obtain ⟨places, bound, -, hbound, hshown⟩ := format_eq_showNodes hread
  refine ⟨nodes, bound, hread, hbound, ?_⟩
  rw [← (hshown "en" guests).1, hformat]

end Phrasebook.Message
