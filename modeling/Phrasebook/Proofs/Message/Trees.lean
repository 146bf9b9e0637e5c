import Phrasebook.Proofs.Message.Reading

/-!
# The trees of messages

What a message is read as is not any tree: its texts are not empty and stand apart, its names are identifiers, every choice
has an `other` branch, and a number sign stands only inside a plural (`AreNodes`). The readers keep to this at every depth
(`areNodes_of_read`).
-/

namespace Phrasebook.Message

open Text Unicode

variable {p n : Bool} {q : Quoting} {s t rest out : List Char} {name : String} {node : Node} {nodes : List Node}
  {part : Part} {places : List ArgumentPlace}

/-! ## Trees -/

/-- One or more letters, numerals and underscores. -/
def IsIdentifier (name : String) : Prop := name ≠ "" ∧ ∀ c ∈ name.toList, isNameChar c = true

instance (name : String) : Decidable (IsIdentifier name) := @instDecidableAnd _ _ _ (List.decidableBAll _ _)

/-- There is a text that names the number. -/
def HasNumeral (x : Number) : Prop := ∃ s, Number.ofText? s = some x

/-- A number for which a branch of a plural is taken has a text. -/
def IsPluralKey : PluralKey → Prop
  | .exact x => HasNumeral x
  | .category _ => True

mutual

/-- Can the node stand in a message, or inside a plural of a message? -/
def IsNode (inPlural : Bool) : Node → Prop
  | .text s => s ≠ ""
  | .argument name => IsIdentifier name
  | .number name => IsIdentifier name
  | .plural name offset branches =>
    IsIdentifier name ∧ HasNumeral offset ∧ hasBranch (.category .other) branches = true ∧ ArePluralBranches branches
  | .select name branches => IsIdentifier name ∧ hasBranch "other" branches = true ∧ AreSelectBranches inPlural branches
  | .pound => inPlural = true

/-- Are these nodes that can stand side by side, so that no text follows a text? -/
def AreNodes (inPlural : Bool) : List Node → Prop
  | [] => True
  | node :: nodes => IsNode inPlural node ∧ (NotText [node] ∨ NotText nodes) ∧ AreNodes inPlural nodes

/-- Are these branches of a plural? -/
def ArePluralBranches : List (PluralKey × List Node) → Prop
  | [] => True
  | (key, nodes) :: branches => IsPluralKey key ∧ AreNodes true nodes ∧ ArePluralBranches branches

/-- Are these branches of a select? The number sign goes through to a plural around it. -/
def AreSelectBranches (inPlural : Bool) : List (String × List Node) → Prop
  | [] => True
  | (key, nodes) :: branches => IsToken key ∧ AreNodes inPlural nodes ∧ AreSelectBranches inPlural branches

end

/-! ## What is read -/

theorem IsArgumentName.isIdentifier (h : IsArgumentName name) : IsIdentifier name := by
  refine ⟨?_, h.2⟩
  rintro rfl
  exact h.1.1 rfl

/-- The name in front of a type is an identifier. -/
theorem KindText.isIdentifier {kind : String} {a : List Char} (h : KindText name kind a) : IsIdentifier name := by
  obtain ⟨hname, -, -, -, -⟩ := h
  exact hname.isIdentifier

theorem KeyText.isToken {selector : String} {a : List Char} (h : KeyText selector a) : IsToken selector := by
  obtain ⟨-, hselector, -⟩ := h
  exact hselector

/-- Zero is the offset that needs no text, and it has one. -/
theorem hasNumeral_zero : HasNumeral (Number.zero false) := ⟨['0'], by decide⟩

/-- The offset of a plural that is read has a text. -/
theorem hasNumeral_of_readsHead {offset : Number} (h : ReadsHead (.plural name offset) s rest) :
    IsIdentifier name ∧ HasNumeral offset := by
  cases h with
  | plural ha _ _ _ => exact ⟨ha.isIdentifier, hasNumeral_zero⟩
  | offset ha _ _ _ hoffset _ => exact ⟨ha.isIdentifier, _, hoffset⟩

/-- The key that a selector names is a number with a text, or a category. -/
theorem isPluralKey_of_pluralKey {selector : String} {key : PluralKey} (h : pluralKey selector = .ok key) :
    IsPluralKey key := by
  unfold pluralKey at h
  split at h
  · split at h
    · next hexact =>
      obtain rfl := Except.ok.inj h
      exact ⟨_, hexact⟩
    · cases h
  · split at h
    · obtain rfl := Except.ok.inj h
      exact trivial
    · cases h

/-- Characters in front of nodes make a text of their own or become part of the text that is there. -/
theorem AreNodes.prepend (h : AreNodes p nodes) (out : List Char) : AreNodes p (prepend out nodes) := by
  unfold Message.prepend
  split
  · next s nodes =>
    refine ⟨fun hempty => h.1 ?_, h.2⟩
    exact String.toList_eq_nil_iff.mp (List.append_eq_nil_iff.mp (String.ofList_eq_empty_iff.mp hempty)).2
  · next hnot =>
    unfold consText
    split
    · exact h
    · next hout =>
      have hnotText : NotText nodes := by
        cases nodes with
        | nil => trivial
        | cons node nodes => cases node <;> first | trivial | exact absurd rfl (hnot _ _)
      refine ⟨fun hempty => hout ?_, .inr hnotText, h⟩
      exact List.isEmpty_iff.mpr (String.ofList_eq_empty_iff.mp hempty)

/-- The part can stand in a message. -/
def Part.IsWellFormed : Part → Prop
  | .nodes _ p _ nodes => AreNodes p nodes
  | .argument p node => IsNode p node
  | .pluralBranches branches => ArePluralBranches branches
  | .selectBranches p branches => AreSelectBranches p branches

/-- What stands in a text by the grammar is well formed, by induction on how the grammar says it. -/
theorem Reads.isWellFormed (h : Reads part s rest places) : part.IsWellFormed := by
  induction h with
  | @done q p n =>
    cases q with
    | maybeOn => exact ⟨mt String.ofList_eq_empty_iff.mp (List.cons_ne_nil _ _), .inr trivial, trivial⟩
    | _ => trivial
  | text _ _ ih => exact ih.prepend _
  | closed _ => trivial
  | @pound _ p _ _ _ _ _ hstep _ ih =>
    have hp : p = true := by
      cases p with
      | true => rfl
      | false => cases isMark_of_textStep hstep
    exact ⟨hp, .inl trivial, ih⟩
  | argument _ hnode _ ihnode ih => exact ⟨ihnode, .inl (hnode.isRead 0).1, ih⟩
  | value hhead =>
    cases hhead with
    | argument hname _ _ => exact hname.isIdentifier
  | number hhead =>
    cases hhead with
    | number ha _ => exact ha.isIdentifier
  | plural hhead _ hother ih =>
    obtain ⟨hname, hoffset⟩ := hasNumeral_of_readsHead hhead
    exact ⟨hname, hoffset, hother, ih⟩
  | select hhead _ hother ih =>
    cases hhead with
    | select ha => exact ⟨ha.isIdentifier, hother, ih⟩
  | pluralEnd _ => trivial
  | pluralBranch _ hkey _ _ ihnodes ih => exact ⟨isPluralKey_of_pluralKey hkey, ihnodes, ih⟩
  | selectEnd _ => trivial
  | selectBranch ha _ _ ihnodes ih => exact ⟨ha.isToken, ihnodes, ih⟩

/-- The tree of a message is well formed at every depth. -/
theorem areNodes_of_read {message : String} (h : read message = .ok nodes) : AreNodes false nodes := by
  obtain ⟨places, hreads⟩ := read_eq_ok_iff.mp h
  exact hreads.isWellFormed

end Phrasebook.Message
