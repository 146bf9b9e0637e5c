import Phrasebook.Proofs.Message.Places
import Phrasebook.Proofs.Message.PlainText
import Phrasebook.Proofs.Template.Normalizing

/-!
# The braces of a message

Every argument and every branch of a message has an opening brace and a closing one (`bracesOf`). Other braces stand in quotes,
and opening ones in the styles of numbers. So an argument has at least the braces of its node, and if it has no others, each of
them is closed in it (`Reads.haveBraces`).

What stands behind an argument does not matter to it (`Reads.argument_change`).
-/

namespace Phrasebook.Message

open Text Unicode Template

variable {p n : Bool} {q : Quoting} {c : Char} {s t a v rest : List Char} {name : String} {node : Node} {nodes : List Node}
  {part : Part} {places : List ArgumentPlace}

/-! ## Counting braces -/

/-- The braces of the node itself: a text and a number sign have none. -/
def ownBraces : Node → Nat
  | .text _ => 0
  | .pound => 0
  | _ => 1

mutual

/-- How many arguments and branches are opened inside a node. -/
def bracesInside : Node → Nat
  | .plural _ _ branches => pluralBraces branches
  | .select _ branches => selectBraces branches
  | _ => 0

/-- How many arguments and branches are opened in a message. -/
def bracesOf : List Node → Nat
  | [] => 0
  | node :: nodes => ownBraces node + bracesInside node + bracesOf nodes

/-- How many arguments and branches are opened in the branches of a plural. -/
def pluralBraces : List (PluralKey × List Node) → Nat
  | [] => 0
  | (_, nodes) :: branches => bracesOf nodes + 1 + pluralBraces branches

/-- How many arguments and branches are opened in the branches of a select. -/
def selectBraces : List (String × List Node) → Nat
  | [] => 0
  | (_, nodes) :: branches => bracesOf nodes + 1 + selectBraces branches

end

theorem bracesOf_cons (node : Node) (nodes : List Node) :
    bracesOf (node :: nodes) = ownBraces node + bracesInside node + bracesOf nodes := by rw [bracesOf]

theorem bracesOf_text (s : String) (nodes : List Node) : bracesOf (.text s :: nodes) = bracesOf nodes := by
  rw [bracesOf_cons, bracesInside]
  · exact Nat.zero_add _
  all_goals nofun

/-- Text has no braces of its own. -/
theorem bracesOf_prepend (out : List Char) (nodes : List Node) : bracesOf (prepend out nodes) = bracesOf nodes := by
  unfold prepend
  split
  · rw [bracesOf_text, bracesOf_text]
  · unfold consText
    split
    · rfl
    · rw [bracesOf_text]

/-- The text has at least the given braces of either kind. If it has no others, each of them is closed in it. -/
structure HasBraces (v : List Char) (braces : Nat) : Prop where
  opening : braces ≤ v.count '{'
  closing : braces ≤ v.count '}'
  balanced : v.count '{' = braces → v.count '}' = braces → Balanced v

theorem HasBraces.append {k l : Nat} (hv : HasBraces v k) (ha : HasBraces a l) : HasBraces (v ++ a) (k + l) := by
  have hopen := hv.opening
  have hopen' := ha.opening
  have hclose := hv.closing
  have hclose' := ha.closing
  refine ⟨?_, ?_, fun h h' => ?_⟩
  · rw [List.count_append]
    omega
  · rw [List.count_append]
    omega
  · rw [List.count_append] at h h'
    exact (hv.balanced (by omega) (by omega)).append (ha.balanced (by omega) (by omega))

theorem hasBraces_of_noBrace (h : NoBrace v) : HasBraces v 0 := by
  refine ⟨Nat.zero_le _, Nat.zero_le _, fun _ _ => balanced_of_noBraces fun c hc => ⟨?_, ?_⟩⟩
  · rintro rfl
    exact h.1 hc
  · rintro rfl
    exact h.2 hc

/-- A text without a closing brace, such as the style of a number. -/
theorem hasBraces_of_not_mem (h : '}' ∉ v) : HasBraces v 0 :=
  ⟨Nat.zero_le _, Nat.zero_le _, fun hopen _ => (hasBraces_of_noBrace ⟨List.count_eq_zero.mp hopen, h⟩).balanced hopen
    (List.count_eq_zero.mpr h)⟩

theorem hasBraces_singleton (c : Char) : HasBraces [c] 0 := by
  refine ⟨Nat.zero_le _, Nat.zero_le _, fun hopen hclose => ?_⟩
  have hbrace : NoBrace [c] := ⟨List.count_eq_zero.mp hopen, List.count_eq_zero.mp hclose⟩
  exact (hasBraces_of_noBrace hbrace).balanced hopen hclose

/-- A pair of braces around a text. -/
theorem HasBraces.group {k : Nat} (h : HasBraces v k) : HasBraces ('{' :: (v ++ ['}'])) (k + 1) := by
  have hopen := h.opening
  have hclose := h.closing
  have hcount : ('{' :: (v ++ ['}'])).count '{' = v.count '{' + 1 ∧ ('{' :: (v ++ ['}'])).count '}' = v.count '}' + 1 := by
    simp
  refine ⟨by omega, by omega, fun h₁ h₂ => ?_⟩
  exact .group (h.balanced (by omega) (by omega)) .nil

/-! ## Heads -/

theorem Blanks.noBrace (h : Blanks v) : NoBrace v := by
  have hbrace : isBlank '{' = false ∧ isBlank '}' = false := by decide
  refine ⟨fun hmem => ?_, fun hmem => ?_⟩
  · rw [h _ hmem] at hbrace
    cases hbrace.1
  · rw [h _ hmem] at hbrace
    cases hbrace.2

theorem IsToken.noBrace {token : String} (h : IsToken token) : NoBrace token.toList := by
  have hbrace : isTokenChar '{' = false ∧ isTokenChar '}' = false := by decide
  refine ⟨fun hmem => ?_, fun hmem => ?_⟩
  · rw [h.2 _ hmem] at hbrace
    cases hbrace.1
  · rw [h.2 _ hmem] at hbrace
    cases hbrace.2

theorem NoBrace.append (hv : NoBrace v) (ha : NoBrace a) : NoBrace (v ++ a) :=
  ⟨fun h => (List.mem_append.mp h).elim hv.1 ha.1, fun h => (List.mem_append.mp h).elim hv.2 ha.2⟩

theorem NoBrace.cons (hopen : c ≠ '{') (hclose : c ≠ '}') (hv : NoBrace v) : NoBrace (c :: v) :=
  NoBrace.append (v := [c]) ⟨by simpa using Ne.symm hopen, by simpa using Ne.symm hclose⟩ hv

/-- No brace stands in front of what a type needs. -/
theorem KindText.noBrace {kind : String} (ha : KindText name kind a) (hkind : NoBrace kind.toList) : NoBrace a := by
  obtain ⟨hname, h₁, h₂, h₃, h₄⟩ := ha
  exact h₁.noBrace.append (hname.1.noBrace.append (h₂.noBrace.append
    (NoBrace.cons (by decide) (by decide) (h₃.noBrace.append (hkind.append h₄.noBrace)))))

/-- The style of a number may hold opening braces, but no closing one. -/
theorem IsStyle.not_mem {style : List Char} (h : IsStyle style) : '}' ∉ style := by
  rcases h with rfl | ⟨-, h⟩
  · exact nofun
  · exact h

/-- An argument without branches ends with a brace, whatever follows it, and has no braces inside, apart from the opening ones
in the style of a number. -/
theorem ReadsHead.closed {head : Head} (h : ReadsHead head s rest)
    (hhead : (∃ name, head = .argument name) ∨ ∃ name, head = .number name) :
    ∃ v, s = v ++ '}' :: rest ∧ HasBraces v 0 ∧ ∀ t, ReadsHead head (v ++ '}' :: t) t := by
  cases h with
  | @argument name b₁ b₂ _ hname h₁ h₂ =>
    refine ⟨b₁ ++ (name.toList ++ b₂), by simp, hasBraces_of_noBrace ?_, fun t => ?_⟩
    · exact h₁.noBrace.append (hname.1.noBrace.append h₂.noBrace)
    · have hread : ReadsHead (.argument name) (b₁ ++ (name.toList ++ (b₂ ++ '}' :: t))) t := .argument hname h₁ h₂
      simpa using hread
  | @number name a style _ ha hstyle =>
    have hnone := (ha.noBrace (by decide)).2
    refine ⟨a ++ style, by simp, hasBraces_of_not_mem fun hmem => ?_, fun t => ?_⟩
    · exact (List.mem_append.mp hmem).elim hnone hstyle.not_mem
    · have hread : ReadsHead (.number name) (a ++ (style ++ '}' :: t)) t := .number ha hstyle
      simpa using hread
  | plural _ _ _ _ => simp at hhead
  | offset _ _ _ _ _ _ => simp at hhead
  | select _ => simp at hhead

/-- Nothing in front of branches is a brace. -/
theorem ReadsHead.open_noBrace {head : Head} (h : ReadsHead head s rest)
    (hhead : (∃ name offset, head = .plural name offset) ∨ ∃ name, head = .select name) : ∃ a, s = a ++ rest ∧ NoBrace a := by
  have hcomma : ∀ {v}, NoBrace v → NoBrace (',' :: v) := NoBrace.cons (by decide) (by decide)
  cases h with
  | argument _ _ _ => simp at hhead
  | number _ _ => simp at hhead
  | @plural name a b _ ha hb _ _ =>
    exact ⟨a ++ ',' :: b, by simp, (ha.noBrace (by decide)).append (hcomma hb.noBrace)⟩
  | @offset name token offset a b b' _ ha hb hb' htoken _ _ =>
    have hmark : NoBrace offsetMark := by decide
    refine ⟨a ++ ',' :: (b ++ (offsetMark ++ (b' ++ token.toList))), by simp, (ha.noBrace (by decide)).append (hcomma ?_)⟩
    exact hb.noBrace.append (hmark.append (hb'.noBrace.append htoken.noBrace))
  | @select name a _ ha =>
    exact ⟨a ++ [','], by simp, (ha.noBrace (by decide)).append (hcomma ⟨nofun, nofun⟩)⟩

/-- The key of a branch ends with the only brace in it. -/
theorem KeyText.noBrace {selector : String} (ha : KeyText selector a) : ∃ v, a = v ++ ['{'] ∧ NoBrace v := by
  obtain ⟨hb, hselector, hb'⟩ := ha
  rename_i b b'
  exact ⟨b ++ (selector.toList ++ b'), by simp, hb.noBrace.append (hselector.noBrace.append hb'.noBrace)⟩

/-! ## What stands behind a part -/

/-- The part ends with a brace, or in front of one if it is nodes, and what follows this brace may be replaced. -/
def Part.MayChange : Part → List Char → List Char → Prop
  | .nodes q p n nodes, s, rest =>
    ∃ v, s = v ++ rest ∧ ∀ t, t.head? = rest.head? → ∃ places, Reads (.nodes q p n nodes) (v ++ t) t places
  | part, s, rest => ∃ v, s = v ++ '}' :: rest ∧ ∀ t, ∃ places, Reads part (v ++ '}' :: t) t places

/-- Up to a closing brace, texts begin alike whatever follows. -/
theorem beginAlike_brace (v t t' : List Char) : BeginAlike (v ++ '}' :: t) (v ++ '}' :: t') :=
  ⟨v, '}', by decide, ⟨t, by simp⟩, ⟨t', by simp⟩⟩

/-- What follows a part may be replaced, by induction on how the grammar says it. -/
theorem Reads.mayChange (h : Reads part s rest places) : part.MayChange s rest := by
  induction h with
  | @done q p n =>
    refine ⟨[], rfl, fun t ht => ?_⟩
    obtain rfl : t = [] := List.head?_eq_none_iff.mp ht
    exact ⟨_, .done⟩
  | @text q q' p n c out s rest nodes places hstep _ ih =>
    obtain ⟨v, rfl, hchange⟩ := ih
    refine ⟨c :: v, rfl, fun t ht => ?_⟩
    obtain ⟨places', hreads⟩ := hchange t ht
    exact ⟨_, .text hstep hreads⟩
  | @closed q p s hstep =>
    refine ⟨[], rfl, fun t ht => ?_⟩
    obtain ⟨t, rfl⟩ := List.head?_eq_some_iff.mp ht
    exact ⟨_, .closed hstep⟩
  | @pound q p n s rest nodes places hstep _ ih =>
    obtain ⟨v, rfl, hchange⟩ := ih
    refine ⟨'#' :: v, rfl, fun t ht => ?_⟩
    obtain ⟨places', hreads⟩ := hchange t ht
    exact ⟨_, .pound hstep hreads⟩
  | @argument q p n s t rest node nodes inside places hstep _ _ ihnode ih =>
    obtain ⟨u, rfl, hnode⟩ := ihnode
    obtain ⟨v, rfl, hchange⟩ := ih
    refine ⟨'{' :: (u ++ '}' :: v), by simp, fun t ht => ?_⟩
    obtain ⟨_, hreads⟩ := hnode (v ++ t)
    obtain ⟨_, hreads'⟩ := hchange t ht
    have hargument := Reads.argument hstep hreads hreads'
    exact ⟨_, by simpa using hargument⟩
  | value hhead =>
    obtain ⟨v, rfl, -, hchange⟩ := hhead.closed (.inl ⟨_, rfl⟩)
    exact ⟨v, rfl, fun t => ⟨_, .value (hchange t)⟩⟩
  | number hhead =>
    obtain ⟨v, rfl, -, hchange⟩ := hhead.closed (.inr ⟨_, rfl⟩)
    exact ⟨v, rfl, fun t => ⟨_, .number (hchange t)⟩⟩
  | plural hhead _ hother ih =>
    obtain ⟨a, -, rfl, hfront⟩ := hhead.change
    obtain ⟨v, rfl, hchange⟩ := ih
    refine ⟨a ++ v, by simp, fun t => ?_⟩
    obtain ⟨_, hreads⟩ := hchange t
    rw [List.append_assoc]
    exact ⟨_, .plural (hfront _ fun _ _ _ => beginAlike_brace v _ t) hreads hother⟩
  | select hhead _ hother ih =>
    obtain ⟨a, -, rfl, hfront⟩ := hhead.change
    obtain ⟨v, rfl, hchange⟩ := ih
    refine ⟨a ++ v, by simp, fun t => ?_⟩
    obtain ⟨_, hreads⟩ := hchange t
    rw [List.append_assoc]
    exact ⟨_, .select (hfront _ nofun) hreads hother⟩
  | @pluralEnd b rest hb => exact ⟨b, rfl, fun t => ⟨_, .pluralEnd hb⟩⟩
  | @pluralBranch selector key a s t rest nodes branches inside places ha hkey _ _ ihnodes ih =>
    obtain ⟨u, rfl, hnodes⟩ := ihnodes
    obtain ⟨v, rfl, hchange⟩ := ih
    refine ⟨a ++ (u ++ '}' :: v), by simp, fun t => ?_⟩
    obtain ⟨_, hreads⟩ := hnodes ('}' :: (v ++ '}' :: t)) rfl
    obtain ⟨_, hreads'⟩ := hchange t
    have hbranch := Reads.pluralBranch ha hkey hreads hreads'
    exact ⟨_, by simpa using hbranch⟩
  | @selectEnd p b rest hb => exact ⟨b, rfl, fun t => ⟨_, .selectEnd hb⟩⟩
  | @selectBranch p key a s t rest nodes branches inside places ha _ _ ihnodes ih =>
    obtain ⟨u, rfl, hnodes⟩ := ihnodes
    obtain ⟨v, rfl, hchange⟩ := ih
    refine ⟨a ++ (u ++ '}' :: v), by simp, fun t => ?_⟩
    obtain ⟨_, hreads⟩ := hnodes ('}' :: (v ++ '}' :: t)) rfl
    obtain ⟨_, hreads'⟩ := hchange t
    have hbranch := Reads.selectBranch ha hreads hreads'
    exact ⟨_, by simpa using hbranch⟩

/-- What follows an argument may be replaced. -/
theorem Reads.argument_change (h : Reads (.argument p node) s rest places) :
    ∃ v, s = v ++ '}' :: rest ∧ ∀ t, ∃ places, Reads (.argument p node) (v ++ '}' :: t) t places := h.mayChange

/-! ## The braces of a part -/

/-- The part has the braces of its tree, and the last of the closing ones ends it unless it is nodes. -/
def Part.HaveBraces : Part → List Char → List Char → Prop
  | .nodes _ _ _ nodes, s, rest => ∃ v, s = v ++ rest ∧ HasBraces v (bracesOf nodes)
  | .argument _ node, s, rest => ownBraces node = 1 ∧ ∃ v, s = v ++ '}' :: rest ∧ HasBraces v (bracesInside node)
  | .pluralBranches branches, s, rest => ∃ v, s = v ++ '}' :: rest ∧ HasBraces v (pluralBraces branches)
  | .selectBranches _ branches, s, rest => ∃ v, s = v ++ '}' :: rest ∧ HasBraces v (selectBraces branches)

/-- A branch has its own braces and those of its nodes, in front of the braces of the other branches. -/
theorem hasBraces_branch {k l : Nat} {u : List Char} (ha : ∃ v, a = v ++ ['{'] ∧ NoBrace v) (hu : HasBraces u k)
    (hv : HasBraces v l) : HasBraces (a ++ (u ++ '}' :: v)) (k + 1 + l) := by
  obtain ⟨w, rfl, hw⟩ := ha
  have hbranch := (hasBraces_of_noBrace hw).append (hu.group.append hv)
  rw [Nat.zero_add] at hbranch
  simpa using hbranch

/-- A part has the braces of its tree, by induction on how the grammar says it. -/
theorem Reads.haveBraces (h : Reads part s rest places) : part.HaveBraces s rest := by
  induction h with
  | @done q p n =>
    have hnone : bracesOf (consText q.atEnd []) = 0 := bracesOf_prepend q.atEnd []
    refine ⟨[], rfl, ?_⟩
    rw [hnone]
    exact hasBraces_of_noBrace (by decide)
  | @text q q' p n c out s rest nodes places hstep _ ih =>
    obtain ⟨v, rfl, hv⟩ := ih
    have hchar := (hasBraces_singleton c).append hv
    rw [Nat.zero_add] at hchar
    refine ⟨c :: v, rfl, ?_⟩
    rw [bracesOf_prepend]
    exact hchar
  | closed _ => exact ⟨[], rfl, hasBraces_of_noBrace ⟨nofun, nofun⟩⟩
  | @pound q p n s rest nodes places _ _ ih =>
    obtain ⟨v, rfl, hv⟩ := ih
    refine ⟨'#' :: v, rfl, ?_⟩
    rw [bracesOf_cons]
    exact (hasBraces_singleton '#').append hv
  | @argument q p n s t rest node nodes inside places _ _ _ ihnode ih =>
    obtain ⟨hown, u, rfl, hu⟩ := ihnode
    obtain ⟨v, rfl, hv⟩ := ih
    refine ⟨'{' :: (u ++ '}' :: v), by simp, ?_⟩
    have hgroup := hu.group.append hv
    rw [bracesOf_cons, hown, Nat.add_comm 1]
    simpa using hgroup
  | value hhead =>
    obtain ⟨v, hv, hbraces, -⟩ := hhead.closed (.inl ⟨_, rfl⟩)
    exact ⟨rfl, v, hv, hbraces⟩
  | number hhead =>
    obtain ⟨v, hv, hbraces, -⟩ := hhead.closed (.inr ⟨_, rfl⟩)
    exact ⟨rfl, v, hv, hbraces⟩
  | plural hhead _ _ ih =>
    obtain ⟨a, rfl, ha⟩ := hhead.open_noBrace (.inl ⟨_, _, rfl⟩)
    obtain ⟨v, rfl, hv⟩ := ih
    have hfront := (hasBraces_of_noBrace ha).append hv
    rw [Nat.zero_add] at hfront
    refine ⟨rfl, a ++ v, by simp, ?_⟩
    rw [bracesInside]
    exact hfront
  | select hhead _ _ ih =>
    obtain ⟨a, rfl, ha⟩ := hhead.open_noBrace (.inr ⟨_, rfl⟩)
    obtain ⟨v, rfl, hv⟩ := ih
    have hfront := (hasBraces_of_noBrace ha).append hv
    rw [Nat.zero_add] at hfront
    refine ⟨rfl, a ++ v, by simp, ?_⟩
    rw [bracesInside]
    exact hfront
  | @pluralEnd b rest hb =>
    refine ⟨b, rfl, ?_⟩
    rw [pluralBraces]
    exact hasBraces_of_noBrace hb.noBrace
  | @pluralBranch selector key a s t rest nodes branches inside places ha _ _ _ ihnodes ih =>
    obtain ⟨u, rfl, hu⟩ := ihnodes
    obtain ⟨v, rfl, hv⟩ := ih
    refine ⟨a ++ (u ++ '}' :: v), by simp, ?_⟩
    rw [pluralBraces]
    exact hasBraces_branch ha.noBrace hu hv
  | @selectEnd p b rest hb =>
    refine ⟨b, rfl, ?_⟩
    rw [selectBraces]
    exact hasBraces_of_noBrace hb.noBrace
  | @selectBranch p key a s t rest nodes branches inside places ha _ _ ihnodes ih =>
    obtain ⟨u, rfl, hu⟩ := ihnodes
    obtain ⟨v, rfl, hv⟩ := ih
    refine ⟨a ++ (u ++ '}' :: v), by simp, ?_⟩
    rw [selectBraces]
    exact hasBraces_branch ha.noBrace hu hv

end Phrasebook.Message
