import Mathlib.Data.List.Nodup
import Phrasebook.Context.Message

/-!
# Resolving messages with one chain

Here formatting is a relation by rules that pass one chain from step to step: the id of a message is pushed before its text is
filled and popped afterwards, and nothing says beforehand that this ends. What keeps a reference from being followed is a
parameter of the rules, the guard. A run also lists every message that a reference led to, with the chain it found and the
chain it left.
-/

namespace Phrasebook.Context

open Template

/-- Why a reference inside the messages of a chain is not followed; nothing if it is. -/
abbrev Guard := List String → String → Option Warning

/-- No reference leads back into the chain, and none leads further once the chain has its greatest length. -/
def chainGuard : Guard := fun chain id =>
  if id ∈ chain then some (.referenceToItself id chain)
  else if maxDepth ≤ chain.length then some (.referenceTooDeep id chain.length)
  else none

/-- Every reference is followed. -/
def noGuard : Guard := fun _ _ => none

/-- A message that a reference led to. -/
structure Visit where
  id : String
  /-- The ids being resolved when the message was entered, the outermost first. -/
  chain : List String
  /-- The ids being resolved when it was left. -/
  left : List String

/-- The ids on the way to a visited message, its own last. -/
def Visit.path (v : Visit) : List String := v.chain ++ [v.id]

section Rules

variable (c : Context) (locale : Option String) (guard : Guard)

mutual

/-- The message of a descriptor, formatted inside the messages of a chain. -/
inductive Formats : List String → Descriptor → Option Variables → Option String →
    Logged String → List String → List Visit → Prop where
  | instead {chain descriptor values text} (htemplate : c.templateOf locale descriptor = none) :
    Formats chain descriptor values (some text) (pure text) chain []
  | template {chain chain' : List String} {descriptor values fallback template filled visits}
    (htemplate : c.templateOf locale descriptor = some template)
    (hfills : Fills (chain ++ [descriptor.id]) template values fallback filled chain' visits) :
    Formats chain descriptor values fallback (do let text ← filled; c.present locale (values.getD .empty) text)
      chain'.dropLast visits
  | itsId {chain chain' : List String} {descriptor values filled visits}
    (htemplate : c.templateOf locale descriptor = none)
    (hfills : Fills (chain ++ [descriptor.id]) descriptor.id values none filled chain' visits) :
    Formats chain descriptor values none
      (do Logged.warn (.messageNotFound descriptor.id); let text ← filled; c.present locale (values.getD .empty) text)
      chain'.dropLast visits

/-- A template with its placeholders filled. -/
inductive Fills : List String → String → Option Variables → Option String →
    Logged String → List String → List Visit → Prop where
  | plain {chain template values fallback} (h : (pieces template.toList).any Piece.isPlaceholder = false) :
    Fills chain template values fallback (pure template) chain []
  | instead {chain template text} (h : (pieces template.toList).any Piece.isPlaceholder = true) :
    Fills chain template none (some text) (do Logged.warn (.valuesNotProvided template); return text) chain []
  | given {chain chain' template given fallback filled visits}
    (h : (pieces template.toList).any Piece.isPlaceholder = true)
    (hparts : FillsParts chain given (pieces template.toList) filled chain' visits) :
    Fills chain template (some given) fallback (do let filled ← filled; orFallback template fallback filled) chain' visits
  | notGiven {chain chain' template filled visits} (h : (pieces template.toList).any Piece.isPlaceholder = true)
    (hparts : FillsParts chain .empty (pieces template.toList) filled chain' visits) :
    Fills chain template none none
      (do Logged.warn (.valuesNotProvided template); let filled ← filled; orFallback template none filled) chain' visits

/-- The parts of a template, filled from the left. -/
inductive FillsParts : List String → Variables → List Piece → Logged Filled → List String → List Visit → Prop where
  | nil {chain values} : FillsParts chain values [] (pure ⟨"", []⟩) chain []
  | text {chain chain' values s parts others visits} (hparts : FillsParts chain values parts others chain' visits) :
    FillsParts chain values (.text s :: parts)
      (do let others ← others; return others.cons (Piece.text s).written (some (String.ofList s))) chain' visits
  | name {chain chain' values n parts others visits} (hparts : FillsParts chain values parts others chain' visits) :
    FillsParts chain values (.name n :: parts)
      (do let others ← others; return others.cons (Piece.name n).written ((values.get? n).map Value.display)) chain' visits
  | reference {chain chain' chain'' values id parts found others visits visits'}
    (hresolves : Resolves chain values id found chain' visits)
    (hparts : FillsParts chain' values parts others chain'' visits') :
    FillsParts chain values (.reference id :: parts)
      (do let found ← found; let others ← others; return others.cons (Piece.reference id).written found) chain''
      (visits ++ visits')

/-- What stands for a reference. -/
inductive Resolves : List String → Variables → List Fragment → Logged (Option String) → List String → List Visit →
    Prop where
  | refused {chain values reference warning}
    (hguard : guard chain (referencedId values reference).value = some warning) :
    Resolves chain values reference (do let _ ← referencedId values reference; Logged.warn warning; return none) chain []
  | followed {chain chain' values reference text visits}
    (hguard : guard chain (referencedId values reference).value = none)
    (hformats : Formats chain ⟨(referencedId values reference).value, none⟩ (some .empty) none text chain' visits) :
    Resolves chain values reference (do let _ ← referencedId values reference; some <$> text) chain'
      (⟨(referencedId values reference).value, chain, chain'⟩ :: visits)

end

end Rules

variable {c : Context} {locale : Option String}

/-- The chain that a message found when it was entered has no repetition, lacks the message and has room for it; and it was
left as it was found. -/
structure Visit.IsGuarded (v : Visit) : Prop where
  nodup : v.chain.Nodup
  not_mem : v.id ∉ v.chain
  length_lt : v.chain.length < maxDepth
  left_eq : v.left = v.chain

theorem chainGuard_eq_none_iff {chain : List String} {id : String} : chainGuard chain id = none ↔ id ∉ chain ∧ chain.length < maxDepth := by
  unfold chainGuard
  split
  · next h => simp [h]
  · next h =>
    split
    · next hlength => simp [Nat.not_lt.mpr hlength]
    · next hlength => simp [h, Nat.lt_of_not_le hlength]

/-- After a logged value only what follows that value matters. -/
theorem bind_congr_value {α β : Type} {x : Logged α} {f g : α → Logged β} (h : f x.value = g x.value) :
    x >>= f = x >>= g := by
  change Logged.mk _ _ = Logged.mk _ _
  rw [h]

section Resolve

variable {chain : List String} {values : Variables} {reference : List Fragment} {remaining : Nat}

/-- A reference that the guard refuses is left as it is written, with the guard's warning. -/
theorem resolve_of_refused {warning : Warning}
    (hguard : chainGuard chain (referencedId values reference).value = some warning)
    (hremaining : chain.length + remaining = maxDepth) :
    c.resolve locale remaining chain values reference =
      (do let _ ← referencedId values reference; Logged.warn warning; return none) := by
  rw [resolve]
  apply bind_congr_value
  unfold chainGuard at hguard
  split at hguard
  · next hmem =>
    obtain rfl := Option.some.inj hguard
    rw [if_pos hmem]
  · next hmem =>
    split at hguard
    · obtain rfl := Option.some.inj hguard
      obtain rfl : remaining = 0 := by omega
      rw [if_neg hmem]
    · cases hguard

/-- A reference that the guard lets pass stands for the message it names, inside the chain with its id. -/
theorem resolve_of_followed (hguard : chainGuard chain (referencedId values reference).value = none) :
    c.resolve locale (remaining + 1) chain values reference =
      (do
        let _ ← referencedId values reference
        some <$> c.formatWith locale ⟨(referencedId values reference).value, none⟩ (some .empty) none
          (c.resolve locale remaining (chain ++ [(referencedId values reference).value]))) := by
  rw [resolve]
  apply bind_congr_value
  rw [if_neg (chainGuard_eq_none_iff.mp hguard).1]

end Resolve

/-! ## What a run comes to -/

mutual

theorem Formats.sound {chain chain' : List String} {visits : List Visit} {remaining : Nat} {descriptor : Descriptor}
    {values : Option Variables} {fallback : Option String} {result : Logged String}
    (h : Formats c locale chainGuard chain descriptor values fallback result chain' visits)
    (hnodup : (chain ++ [descriptor.id]).Nodup) (hremaining : chain.length + remaining + 1 = maxDepth) :
    result = c.formatWith locale descriptor values fallback (c.resolve locale remaining (chain ++ [descriptor.id])) ∧
      chain' = chain ∧ ∀ v ∈ visits, v.IsGuarded := by
  have hlength : (chain ++ [descriptor.id]).length + remaining = maxDepth := by
    rw [List.length_append, List.length_singleton]
    omega
  cases h with
  | instead htemplate => exact ⟨by simp only [formatWith, htemplate], rfl, by simp⟩
  | template htemplate hfills =>
    obtain ⟨rfl, rfl, hvisits⟩ := Fills.sound hfills hnodup hlength
    exact ⟨by simp only [formatWith, htemplate], List.dropLast_concat, hvisits⟩
  | itsId htemplate hfills =>
    obtain ⟨rfl, rfl, hvisits⟩ := Fills.sound hfills hnodup hlength
    exact ⟨by simp only [formatWith, htemplate], List.dropLast_concat, hvisits⟩
termination_by (remaining, 3, 0)

theorem Fills.sound {chain chain' : List String} {visits : List Visit} {remaining : Nat} {template : String}
    {values : Option Variables} {fallback : Option String} {result : Logged String}
    (h : Fills c locale chainGuard chain template values fallback result chain' visits)
    (hnodup : chain.Nodup) (hremaining : chain.length + remaining = maxDepth) :
    result = fill template values fallback (c.resolve locale remaining chain) ∧ chain' = chain ∧
      ∀ v ∈ visits, v.IsGuarded := by
  cases h with
  | plain hplain => exact ⟨by simp [fill, hplain], rfl, by simp⟩
  | instead hplaceholder => exact ⟨by simp [fill, hplaceholder], rfl, by simp⟩
  | given hplaceholder hparts =>
    obtain ⟨rfl, rfl, hvisits⟩ := FillsParts.sound hparts hnodup hremaining
    exact ⟨by simp [fill, hplaceholder], rfl, hvisits⟩
  | notGiven hplaceholder hparts =>
    obtain ⟨rfl, rfl, hvisits⟩ := FillsParts.sound hparts hnodup hremaining
    exact ⟨by simp [fill, hplaceholder], rfl, hvisits⟩
termination_by (remaining, 2, 0)

theorem FillsParts.sound {chain chain' : List String} {visits : List Visit} {remaining : Nat} {values : Variables}
    {parts : List Piece} {result : Logged Filled}
    (h : FillsParts c locale chainGuard chain values parts result chain' visits) (hnodup : chain.Nodup)
    (hremaining : chain.length + remaining = maxDepth) :
    result = fillPieces values (c.resolve locale remaining chain values) parts ∧ chain' = chain ∧
      ∀ v ∈ visits, v.IsGuarded := by
  cases h with
  | nil => exact ⟨rfl, rfl, by simp⟩
  | text hparts =>
    obtain ⟨rfl, rfl, hvisits⟩ := FillsParts.sound hparts hnodup hremaining
    exact ⟨rfl, rfl, hvisits⟩
  | name hparts =>
    obtain ⟨rfl, rfl, hvisits⟩ := FillsParts.sound hparts hnodup hremaining
    exact ⟨rfl, rfl, hvisits⟩
  | reference hresolves hparts =>
    obtain ⟨rfl, rfl, hvisits⟩ := Resolves.sound hresolves hnodup hremaining
    obtain ⟨rfl, rfl, hvisits'⟩ := FillsParts.sound hparts hnodup hremaining
    refine ⟨rfl, rfl, fun v hv => ?_⟩
    exact (List.mem_append.mp hv).elim (hvisits v) (hvisits' v)
termination_by (remaining, 1, parts.length)

theorem Resolves.sound {chain chain' : List String} {visits : List Visit} {remaining : Nat} {values : Variables}
    {reference : List Fragment} {result : Logged (Option String)}
    (h : Resolves c locale chainGuard chain values reference result chain' visits) (hnodup : chain.Nodup)
    (hremaining : chain.length + remaining = maxDepth) :
    result = c.resolve locale remaining chain values reference ∧ chain' = chain ∧ ∀ v ∈ visits, v.IsGuarded := by
  cases h with
  | refused hguard =>
    exact ⟨(resolve_of_refused hguard hremaining).symm, rfl, by simp⟩
  | followed hguard hformats =>
    obtain ⟨hmem, hlength⟩ := chainGuard_eq_none_iff.mp hguard
    obtain ⟨remaining, rfl⟩ : ∃ n, remaining = n + 1 := ⟨remaining - 1, by omega⟩
    have hpushed : (chain ++ [(referencedId values reference).value]).Nodup := by
      simpa [List.nodup_append] using ⟨hnodup, fun id hid h => hmem (h ▸ hid)⟩
    obtain ⟨rfl, rfl, hvisits⟩ := Formats.sound hformats hpushed (by omega)
    refine ⟨(resolve_of_followed hguard).symm, rfl, fun v hv => ?_⟩
    rcases List.mem_cons.mp hv with rfl | hv
    · exact ⟨hnodup, hmem, hlength, rfl⟩
    · exact hvisits v hv
termination_by (remaining, 0, 0)

end

/-! ## There is a run

What stands for the references decides whether a message has a run; so the induction is on the messages that may still be
pushed. -/

section Exists

variable {guard : Guard} {chain : List String} {resolve : Variables → List Fragment → Logged (Option String)}

theorem exists_fillsParts {values : Variables}
    (h : ∀ reference, ∃ visits, Resolves c locale guard chain values reference (resolve values reference) chain visits)
    (parts : List Piece) :
    ∃ visits, FillsParts c locale guard chain values parts (fillPieces values (resolve values) parts) chain visits := by
  induction parts with
  | nil => exact ⟨[], .nil⟩
  | cons part parts ih =>
    obtain ⟨visits, hparts⟩ := ih
    cases part with
    | text s => exact ⟨visits, .text hparts⟩
    | name n => exact ⟨visits, .name hparts⟩
    | reference id =>
      obtain ⟨visits', hresolves⟩ := h id
      exact ⟨visits' ++ visits, .reference hresolves hparts⟩

theorem exists_fills
    (h : ∀ values reference,
      ∃ visits, Resolves c locale guard chain values reference (resolve values reference) chain visits)
    (template : String) (values : Option Variables) (fallback : Option String) :
    ∃ visits, Fills c locale guard chain template values fallback (fill template values fallback resolve) chain visits := by
  by_cases hplaceholder : (pieces template.toList).any Piece.isPlaceholder = true
  · simp only [fill, hplaceholder, Bool.not_true, Bool.false_eq_true, if_false]
    cases values with
    | some given =>
      obtain ⟨visits, hparts⟩ := exists_fillsParts (h given) (pieces template.toList)
      exact ⟨visits, .given hplaceholder hparts⟩
    | none =>
      cases fallback with
      | some text => exact ⟨[], .instead hplaceholder⟩
      | none =>
        obtain ⟨visits, hparts⟩ := exists_fillsParts (h .empty) (pieces template.toList)
        exact ⟨visits, .notGiven hplaceholder hparts⟩
  · simp only [fill, hplaceholder, Bool.not_false, if_true]
    exact ⟨[], .plain (by simpa using hplaceholder)⟩

/-- A message whose text leaves the chain as it found it is formatted and leaves the chain as it found it. -/
theorem Formats.template_balanced {descriptor : Descriptor} {template : String} {values : Option Variables}
    {fallback : Option String} {filled : Logged String} {visits : List Visit}
    (htemplate : c.templateOf locale descriptor = some template)
    (hfills : Fills c locale guard (chain ++ [descriptor.id]) template values fallback filled (chain ++ [descriptor.id])
      visits) :
    Formats c locale guard chain descriptor values fallback
      (do let text ← filled; c.present locale (values.getD .empty) text) chain visits := by
  have hrun := Formats.template htemplate hfills
  rwa [List.dropLast_concat] at hrun

theorem exists_formats {descriptor : Descriptor}
    (h : ∀ values reference, ∃ visits, Resolves c locale guard (chain ++ [descriptor.id]) values reference
      (resolve values reference) (chain ++ [descriptor.id]) visits)
    (values : Option Variables) (fallback : Option String) :
    ∃ visits, Formats c locale guard chain descriptor values fallback
      (c.formatWith locale descriptor values fallback resolve) chain visits := by
  cases htemplate : c.templateOf locale descriptor with
  | some template =>
    obtain ⟨visits, hfills⟩ := exists_fills h template values fallback
    simp only [formatWith, htemplate]
    exact ⟨visits, .template_balanced htemplate hfills⟩
  | none =>
    cases fallback with
    | some text =>
      simp only [formatWith, htemplate]
      exact ⟨[], .instead htemplate⟩
    | none =>
      obtain ⟨visits, hfills⟩ := exists_fills h descriptor.id values none
      have hrun := Formats.itsId htemplate hfills
      rw [List.dropLast_concat] at hrun
      simp only [formatWith, htemplate]
      exact ⟨visits, hrun⟩

end Exists

/-- As long as the chain has room for what remains, every reference comes to an end. -/
theorem exists_resolves (remaining : Nat) {chain : List String} (values : Variables) (reference : List Fragment)
    (hremaining : chain.length + remaining = maxDepth) :
    ∃ visits, Resolves c locale chainGuard chain values reference (c.resolve locale remaining chain values reference) chain
      visits := by
  induction remaining generalizing chain values reference with
  | zero =>
    cases hguard : chainGuard chain (referencedId values reference).value with
    | some warning =>
      rw [resolve_of_refused hguard hremaining]
      exact ⟨[], .refused hguard⟩
    | none => exact absurd (chainGuard_eq_none_iff.mp hguard).2 (by omega)
  | succ remaining ih =>
    cases hguard : chainGuard chain (referencedId values reference).value with
    | some warning =>
      rw [resolve_of_refused hguard hremaining]
      exact ⟨[], .refused hguard⟩
    | none =>
      rw [resolve_of_followed hguard]
      have hinside : ∀ values' reference', ∃ visits, Resolves c locale chainGuard
          (chain ++ [(Descriptor.mk (referencedId values reference).value none).id]) values' reference'
          (c.resolve locale remaining (chain ++ [(referencedId values reference).value]) values' reference')
          (chain ++ [(Descriptor.mk (referencedId values reference).value none).id]) visits :=
        fun values' reference' => ih values' reference' (by rw [List.length_append, List.length_singleton]; omega)
      obtain ⟨visits, hformats⟩ := exists_formats hinside (some .empty) none
      exact ⟨_, .followed hguard hformats⟩

/-! ## Resolving ends -/

/-- Formatting a message and filling a template come to an end, with one result; every message that a reference leads to on
the way is entered with a chain without repetition that lacks its id and is not full, and leaves the chain as it was. -/
theorem resolution_ends (c : Context) (locale fallback : Option String) (values : Option Variables) :
    (∀ descriptor : Descriptor,
      (∃ visits, Formats c locale chainGuard [] descriptor values fallback
        (c.formatMessage descriptor values locale fallback) [] visits) ∧
      ∀ {result chain visits}, Formats c locale chainGuard [] descriptor values fallback result chain visits →
        result = c.formatMessage descriptor values locale fallback ∧ chain = [] ∧ ∀ v ∈ visits, v.IsGuarded) ∧
    ∀ template : String,
      (∃ visits, Fills c locale chainGuard [] template values fallback
        (c.replaceVariables template values locale fallback) [] visits) ∧
      ∀ {result chain visits}, Fills c locale chainGuard [] template values fallback result chain visits →
        result = c.replaceVariables template values locale fallback ∧ chain = [] ∧ ∀ v ∈ visits, v.IsGuarded := by
  refine ⟨fun descriptor => ⟨?_, fun h => ?_⟩, fun template => ⟨?_, fun h => ?_⟩⟩
  · exact exists_formats (fun values reference => exists_resolves (maxDepth - 1) values reference rfl) values fallback
  · exact h.sound (List.nodup_singleton descriptor.id) rfl
  · exact exists_fills (fun values reference => exists_resolves maxDepth values reference rfl) template values fallback
  · exact h.sound List.nodup_nil rfl

end Phrasebook.Context
