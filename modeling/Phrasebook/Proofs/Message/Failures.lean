import Mathlib.Data.Option.Basic
import Phrasebook.Message.Format
import Phrasebook.Proofs.Message.Faults
import Phrasebook.Proofs.Message.Trees

/-!
# Why a message cannot be formatted

An error is either about the text of a message, and then it is the error for all values in all locales, or about the value
of one of its arguments (`format_error_verdict`). In a tree that was read every choice finds a branch, so that only a value
can be missing (`isOfValue_of_renderNodes`), and no number sign is met outside a plural (`renderNodes_pound`).
-/

namespace Phrasebook

/-- Is the error about the text of the message, rather than about the values that are given for it? -/
def FormatError.isOfText : FormatError → Bool
  | .malformed _ _ => true
  | .missingArgument _ => false
  | .missingOther _ => true
  | .unsupportedType _ => true
  | .notANumber _ => false

/-- Whether something ends in a given error can be computed. -/
instance {α : Type} (r : Except FormatError α) (e : FormatError) : Decidable (r = .error e) :=
  match r with
  | .ok _ => isFalse nofun
  | .error e' => decidable_of_iff (e' = e) ⟨congrArg Except.error, Except.error.inj⟩

namespace Message

variable {locale : String} {values : Variables} {pound : Option Number} {e : FormatError} {name : String}
  {names names' : List String}

/-! ## The names of arguments -/

mutual

/-- The names of the arguments in a node, at every depth. -/
def nodeNames : Node → List String
  | .text _ => []
  | .argument name => [name]
  | .number name => [name]
  | .plural name _ branches => name :: pluralNames branches
  | .select name branches => name :: selectNames branches
  | .pound => []

/-- The names of the arguments in a message. -/
def argumentNames : List Node → List String
  | [] => []
  | node :: nodes => nodeNames node ++ argumentNames nodes

/-- The names of the arguments in the branches of a plural. -/
def pluralNames : List (PluralKey × List Node) → List String
  | [] => []
  | (_, nodes) :: branches => argumentNames nodes ++ pluralNames branches

/-- The names of the arguments in the branches of a select. -/
def selectNames : List (String × List Node) → List String
  | [] => []
  | (_, nodes) :: branches => argumentNames nodes ++ selectNames branches

end

/-! ## Errors about values -/

/-- The error is that one of the names has no value, or one that is no number. -/
def IsOfValue (values : Variables) (names : List String) (e : FormatError) : Prop :=
  ∃ name ∈ names, e = .missingArgument name ∧ values.get? name = none ∨
    e = .notANumber name ∧ ∃ value, values.get? name = some value ∧ value.number? = none

/-- An error about one of some names is about one of any larger list of them. -/
theorem IsOfValue.mono (h : IsOfValue values names e) (hnames : names ⊆ names') : IsOfValue values names' e := by
  obtain ⟨name, hname, he⟩ := h
  exact ⟨name, hnames hname, he⟩

/-- No error about a value is about the text of the message. -/
theorem IsOfValue.isOfText (h : IsOfValue values names e) : e.isOfText = false := by
  obtain ⟨name, -, ⟨rfl, -⟩ | ⟨rfl, -⟩⟩ := h
  · rfl
  · rfl

/-- A value is there exactly if it was given. -/
theorem valueOf_eq_ok_iff {value : Value} : valueOf values name = .ok value ↔ values.get? name = some value := by
  unfold valueOf
  cases values.get? name with
  | none => simp
  | some value' => simp

/-- Looking a value up fails only for the name that is missing. -/
theorem isOfValue_of_valueOf (hname : name ∈ names) (h : valueOf values name = .error e) : IsOfValue values names e := by
  unfold valueOf at h
  split at h
  · cases h
  · next hnone =>
    cases h
    exact ⟨name, hname, .inl ⟨rfl, hnone⟩⟩

/-- Reading a value as a number fails only over that value. -/
theorem isOfValue_of_numberOf (hname : name ∈ names) (h : numberOf values name = .error e) : IsOfValue values names e := by
  unfold numberOf at h
  cases hvalue : valueOf values name with
  | error e' =>
    rw [hvalue] at h
    cases h
    exact isOfValue_of_valueOf hname hvalue
  | ok value =>
    simp only [hvalue, bind, Except.bind] at h
    cases hnumber : value.number? with
    | some x =>
      rw [hnumber] at h
      cases h
    | none =>
      rw [hnumber] at h
      cases h
      exact ⟨name, hname, .inr ⟨rfl, value, valueOf_eq_ok_iff.mp hvalue, hnumber⟩⟩

/-! ## Every choice finds a branch -/

/-- Where some branch has a key that satisfies `p`, one is taken. -/
theorem renderPlural_ne_none {p : PluralKey → Bool} {branches : List (PluralKey × List Node)}
    (h : ∃ branch ∈ branches, p branch.1 = true) : renderPlural locale values pound p branches ≠ none := by
  induction branches with
  | nil => simp at h
  | cons branch branches ih =>
    obtain ⟨key, nodes⟩ := branch
    rw [renderPlural]
    split
    · exact Option.some_ne_none _
    · next hkey =>
      apply ih
      obtain ⟨branch, hmem, hp⟩ := h
      rcases List.mem_cons.mp hmem with rfl | hmem
      · exact absurd hp hkey
      · exact ⟨branch, hmem, hp⟩

/-- A choice that has a branch for the value finds it. -/
theorem renderSelect_ne_none {p : String → Bool} {branches : List (String × List Node)}
    (h : ∃ branch ∈ branches, p branch.1 = true) : renderSelect locale values pound p branches ≠ none := by
  induction branches with
  | nil => simp at h
  | cons branch branches ih =>
    obtain ⟨key, nodes⟩ := branch
    rw [renderSelect]
    split
    · exact Option.some_ne_none _
    · next hkey =>
      apply ih
      obtain ⟨branch, hmem, hp⟩ := h
      rcases List.mem_cons.mp hmem with rfl | hmem
      · exact absurd hp hkey
      · exact ⟨branch, hmem, hp⟩

/-- A branch with the key is found by every search that the key satisfies. -/
theorem exists_of_hasBranch {κ : Type} [DecidableEq κ] {key : κ} {branches : List (κ × List Node)} {p : κ → Bool}
    (h : hasBranch key branches = true) (hp : p key = true) : ∃ branch ∈ branches, p branch.1 = true := by
  obtain ⟨branch, hmem, hkey⟩ := List.any_eq_true.mp h
  refine ⟨branch, hmem, ?_⟩
  rw [show branch.1 = key from of_decide_eq_true hkey]
  exact hp

/-- A choice that is there is taken instead of the default. -/
theorem eq_some_of_getD {α : Type} {a : Option α} {r d : α} (ha : a ≠ none) (h : a.getD d = r) : a = some r := by
  cases a with
  | none => exact absurd rfl ha
  | some r' =>
    obtain rfl := h
    rfl

mutual

/-- A node that is not rendered lacks the value of an argument. -/
theorem isOfValue_of_renderNode : (node : Node) → {p : Bool} → {pound : Option Number} → IsNode p node →
    renderNode locale values pound node = .error e → IsOfValue values (nodeNames node) e
  | .text s, p, pound, hnode, h => by
    rw [renderNode] at h
    cases h
  | .argument name, p, pound, hnode, h => by
    rw [renderNode] at h
    cases hvalue : valueOf values name with
    | error e' =>
      rw [hvalue] at h
      cases h
      exact isOfValue_of_valueOf List.mem_cons_self hvalue
    | ok value =>
      rw [hvalue] at h
      cases h
  | .number name, p, pound, hnode, h => by
    rw [renderNode] at h
    cases hnumber : numberOf values name with
    | error e' =>
      rw [hnumber] at h
      cases h
      exact isOfValue_of_numberOf List.mem_cons_self hnumber
    | ok x =>
      rw [hnumber] at h
      cases h
  | .plural name offset branches, p, pound, hnode, h => by
    rw [IsNode] at hnode
    obtain ⟨-, -, hother, hbranches⟩ := hnode
    rw [renderNode] at h
    cases hnumber : numberOf values name with
    | error e' =>
      rw [hnumber] at h
      cases h
      exact isOfValue_of_numberOf List.mem_cons_self hnumber
    | ok x =>
      rw [hnumber] at h
      have hfound : renderPlural locale values (some (x.sub offset)) (PluralKey.isCategory .other) branches ≠ none :=
        renderPlural_ne_none (exists_of_hasBranch hother rfl)
      have hall : ∀ p, renderPlural locale values (some (x.sub offset)) p branches = some (.error e) →
          IsOfValue values (nodeNames (.plural name offset branches)) e := fun p hp =>
        (isOfValue_of_renderPlural branches hbranches hp).mono (List.subset_cons_self _ _)
      have htaken := eq_some_of_getD (fun hnone => hfound ((Option.orElse_eq_none ..).mp ((Option.orElse_eq_none ..).mp hnone).2).2) h
      rcases (Option.orElse_eq_some ..).mp htaken with hexact | ⟨-, htaken⟩
      · exact hall _ hexact
      · rcases (Option.orElse_eq_some ..).mp htaken with hcategory | ⟨-, hother⟩
        · exact hall _ hcategory
        · exact hall _ hother
  | .select name branches, p, pound, hnode, h => by
    rw [IsNode] at hnode
    obtain ⟨-, hother, hbranches⟩ := hnode
    rw [renderNode] at h
    cases hvalue : valueOf values name with
    | error e' =>
      rw [hvalue] at h
      cases h
      exact isOfValue_of_valueOf List.mem_cons_self hvalue
    | ok value =>
      rw [hvalue] at h
      have hkey : ∃ branch ∈ branches, (branch.1 == "other") = true := List.any_eq_true.mp hother
      have hfound : renderSelect locale values pound (· == "other") branches ≠ none := renderSelect_ne_none hkey
      have hall : ∀ p, renderSelect locale values pound p branches = some (.error e) →
          IsOfValue values (nodeNames (.select name branches)) e := fun p hp =>
        (isOfValue_of_renderSelect branches hbranches hp).mono (List.subset_cons_self _ _)
      have htaken := eq_some_of_getD (fun hnone => hfound ((Option.orElse_eq_none ..).mp hnone).2) h
      rcases (Option.orElse_eq_some ..).mp htaken with hkeyed | ⟨-, hother⟩
      · exact hall _ hkeyed
      · exact hall _ hother
  | .pound, p, pound, hnode, h => by
    rw [renderNode] at h
    cases h

/-- In a run of nodes the first error is one of a node. -/
theorem isOfValue_of_renderNodes : (nodes : List Node) → {p : Bool} → {pound : Option Number} → AreNodes p nodes →
    renderNodes locale values pound nodes = .error e → IsOfValue values (argumentNames nodes) e
  | [], p, pound, hnodes, h => by
    rw [renderNodes] at h
    cases h
  | node :: nodes, p, pound, hnodes, h => by
    rw [AreNodes] at hnodes
    rw [renderNodes] at h
    rw [argumentNames]
    cases hfirst : renderNode locale values pound node with
    | error e' =>
      rw [hfirst] at h
      cases h
      exact (isOfValue_of_renderNode node hnodes.1 hfirst).mono (List.subset_append_left _ _)
    | ok first =>
      rw [hfirst] at h
      cases hothers : renderNodes locale values pound nodes with
      | error e' =>
        rw [hothers] at h
        cases h
        exact (isOfValue_of_renderNodes nodes hnodes.2.2 hothers).mono (List.subset_append_right _ _)
      | ok others =>
        rw [hothers] at h
        cases h

/-- The error of a plural is one of the branch that is taken. -/
theorem isOfValue_of_renderPlural : (branches : List (PluralKey × List Node)) → {pound : Option Number} →
    {p : PluralKey → Bool} → ArePluralBranches branches → renderPlural locale values pound p branches = some (.error e) →
    IsOfValue values (pluralNames branches) e
  | [], pound, p, hbranches, h => by
    rw [renderPlural] at h
    cases h
  | (key, nodes) :: branches, pound, p, hbranches, h => by
    rw [ArePluralBranches] at hbranches
    rw [renderPlural] at h
    rw [pluralNames]
    split at h
    · exact (isOfValue_of_renderNodes nodes hbranches.2.1 (Option.some.inj h)).mono (List.subset_append_left _ _)
    · exact (isOfValue_of_renderPlural branches hbranches.2.2 h).mono (List.subset_append_right _ _)

/-- The error of a choice is one of the branch that is taken. -/
theorem isOfValue_of_renderSelect : (branches : List (String × List Node)) → {q : Bool} → {pound : Option Number} →
    {p : String → Bool} → AreSelectBranches q branches → renderSelect locale values pound p branches = some (.error e) →
    IsOfValue values (selectNames branches) e
  | [], q, pound, p, hbranches, h => by
    rw [renderSelect] at h
    cases h
  | (key, nodes) :: branches, q, pound, p, hbranches, h => by
    rw [AreSelectBranches] at hbranches
    rw [renderSelect] at h
    rw [selectNames]
    split at h
    · exact (isOfValue_of_renderNodes nodes hbranches.2.1 (Option.some.inj h)).mono (List.subset_append_left _ _)
    · exact (isOfValue_of_renderSelect branches hbranches.2.2 h).mono (List.subset_append_right _ _)

end

/-! ## Number signs -/

mutual

/-- Outside a plural, the number of a plural around does not matter to a node. -/
theorem renderNode_pound : (node : Node) → (pound pound' : Option Number) → IsNode false node →
    renderNode locale values pound node = renderNode locale values pound' node
  | .text s, pound, pound', hnode => by rw [renderNode, renderNode]
  | .argument name, pound, pound', hnode => by rw [renderNode, renderNode]
  | .number name, pound, pound', hnode => by rw [renderNode, renderNode]
  | .plural name offset branches, pound, pound', hnode => by rw [renderNode, renderNode]
  | .select name branches, pound, pound', hnode => by
    rw [IsNode] at hnode
    rw [renderNode, renderNode]
    simp only [renderSelect_pound branches pound pound' hnode.2.2]
  | .pound, pound, pound', hnode => by
    rw [IsNode] at hnode
    cases hnode

/-- The number that is counted plays no role in nodes outside plurals. -/
theorem renderNodes_pound : (nodes : List Node) → (pound pound' : Option Number) → AreNodes false nodes →
    renderNodes locale values pound nodes = renderNodes locale values pound' nodes
  | [], pound, pound', hnodes => by rw [renderNodes, renderNodes]
  | node :: nodes, pound, pound', hnodes => by
    rw [AreNodes] at hnodes
    rw [renderNodes, renderNodes, renderNode_pound node pound pound' hnodes.1,
      renderNodes_pound nodes pound pound' hnodes.2.2]

/-- Nor in the branches of a choice outside plurals. -/
theorem renderSelect_pound : (branches : List (String × List Node)) → (pound pound' : Option Number) →
    AreSelectBranches false branches → (p : String → Bool) →
    renderSelect locale values pound p branches = renderSelect locale values pound' p branches
  | [], pound, pound', hbranches, p => by rw [renderSelect, renderSelect]
  | (key, nodes) :: branches, pound, pound', hbranches, p => by
    rw [AreSelectBranches] at hbranches
    rw [renderSelect, renderSelect, renderNodes_pound nodes pound pound' hbranches.2.1,
      renderSelect_pound branches pound pound' hbranches.2.2]

end

/-! ## Errors of the readers -/

/-- A fault at a position is a fault of the text. -/
theorem IsFaultIn.isOfText {total : Nat} {s : List Char} (h : IsFaultIn total s e) : e.isOfText = true := by
  cases e with
  | malformed | missingOther | unsupportedType => rfl
  | missingArgument | notANumber => exact h.elim

/-- Whatever goes wrong is the fault of the text. -/
def FailsOnText {α : Type} (r : Except FormatError α) : Prop := ∀ e, r = .error e → e.isOfText = true

/-- A message that cannot be read is at fault itself. -/
theorem failsOnText_read (message : String) : FailsOnText (read message) := by
  intro e h
  exact (isFaultIn_of_read h).isOfText

/-! ## Whose error it is -/

/-- An error that formatting ends in is the one that reading ends in, or one about a value. -/
theorem format_eq_error {message : String} (h : Formatter.standard.format message locale values = .error e) :
    read message = .error e ∨ ∃ nodes, read message = .ok nodes ∧ IsOfValue values (argumentNames nodes) e := by
  simp only [Formatter.standard] at h
  cases hread : read message with
  | error e' =>
    rw [hread] at h
    cases h
    exact .inl rfl
  | ok nodes =>
    rw [hread] at h
    exact .inr ⟨nodes, rfl, isOfValue_of_renderNodes nodes (areNodes_of_read hread) h⟩

/-- A message that cannot be read cannot be formatted, for the same reason. -/
theorem format_of_read_error {message : String} (h : read message = .error e) :
    Formatter.standard.format message locale values = .error e := by
  simp only [Formatter.standard, h]
  rfl

/-- An error about the text of a message is its error for all values in all locales, and every other one is about the value
of an argument in it. What is read has all the branches that can be asked for and no number sign outside a plural. -/
theorem format_error_verdict (message : String) :
    (∀ locale values e, Formatter.standard.format message locale values = .error e → e.isOfText = true →
      ∀ locale' values', Formatter.standard.format message locale' values' = .error e) ∧
    (∀ locale values e, Formatter.standard.format message locale values = .error e → e.isOfText = false →
      ∃ nodes, read message = .ok nodes ∧ IsOfValue values (argumentNames nodes) e) ∧
    ∀ nodes, read message = .ok nodes → AreNodes false nodes ∧ ∀ locale values pound,
      (∀ name, renderNodes locale values pound nodes ≠ .error (.missingOther name)) ∧
      renderNodes locale values pound nodes = renderNodes locale values none nodes := by
  refine ⟨?ofText, ?ofValue, ?tree⟩
  case ofText =>
    intro locale values e h he locale' values'
    obtain hread | ⟨nodes, -, hvalue⟩ := format_eq_error h
    · exact format_of_read_error hread
    · rw [hvalue.isOfText] at he
      cases he
  case ofValue =>
    intro locale values e h he
    obtain hread | hvalue := format_eq_error h
    · rw [failsOnText_read message e hread] at he
      cases he
    · exact hvalue
  case tree =>
    intro nodes hread
    have hnodes := areNodes_of_read hread
    refine ⟨hnodes, fun locale values pound => ⟨fun name h => ?_, renderNodes_pound nodes pound none hnodes⟩⟩
    cases (isOfValue_of_renderNodes nodes hnodes h).isOfText

/-- A plural without an `other` branch, and an argument without a value. -/
theorem format_error_verdict_parcels :
    (∀ locale values, Formatter.standard.format "\x7bn, plural, one \x7b#\x7d\x7d" locale values =
      .error (.missingOther "n")) ∧
    ∃ nodes, read "\x7bname\x7d" = .ok nodes ∧ IsOfValue .empty (argumentNames nodes) (.missingArgument "name") :=
  ⟨(format_error_verdict _).1 "en" .empty _ (by decide +kernel) rfl,
    (format_error_verdict _).2.1 "en" .empty _ (by decide +kernel) rfl⟩

end Message

end Phrasebook
