import Phrasebook.Message.Reader

/-!
# The language of messages

`Reads part s rest places` says that the text `s` begins with the part of a message and leaves `rest`. It is the grammar
that the readers of `Message.read` follow, one character of text or one token at a time, without their bounds and their
errors. The places are where arguments begin, in the order of the text.

Text goes through the four states of `Quoting`: a character adds something and leads to the next state, or it ends the text
(`textStep`).
-/

namespace Phrasebook.Message

open Text Unicode

/-! ## Text -/

/-- What a character adds to the text and the state after it; nothing if the text ends before the character. -/
def textStep (inPlural : Bool) : Quoting → Char → Option (List Char × Quoting)
  | .off, c =>
    if isMark inPlural c then none else if c = '\'' then some ([], .maybeOn) else some ([c], .off)
  | .maybeOn, c =>
    if c = '\'' then some (['\''], .off) else if isMark inPlural c then some ([c], .on) else some (['\'', c], .off)
  | .on, c => if c = '\'' then some ([], .maybeOff) else some ([c], .on)
  | .maybeOff, c =>
    if c = '\'' then some (['\''], .on) else if isMark inPlural c then none else some ([c], .off)

/-- What the end of a message adds to its text. -/
def Quoting.atEnd : Quoting → List Char
  | .maybeOn => ['\'']
  | _ => []

/-- Characters of text in front of nodes. -/
def prepend (text : List Char) : List Node → List Node
  | .text s :: nodes => .text (String.ofList (text ++ s.toList)) :: nodes
  | nodes => consText text nodes

/-! ## Tokens -/

/-- White space, or nothing. -/
def Blanks (b : List Char) : Prop := ∀ c ∈ b, isBlank c = true

instance (b : List Char) : Decidable (Blanks b) := List.decidableBAll _ b

/-- The text does not go on with a character that satisfies `p`. -/
def Stops (p : Char → Bool) (rest : List Char) : Prop := ∀ c, rest.head? = some c → p c = false

/-- A token that is not empty. -/
def IsToken (token : String) : Prop := token.toList ≠ [] ∧ ∀ c ∈ token.toList, isTokenChar c = true

instance (token : String) : Decidable (IsToken token) := @instDecidableAnd _ _ _ (List.decidableBAll _ _)

/-- The name of an argument. -/
def IsArgumentName (name : String) : Prop := IsToken name ∧ ∀ c ∈ name.toList, isNameChar c = true

instance (name : String) : Decidable (IsArgumentName name) := @instDecidableAnd _ _ _ (List.decidableBAll _ _)

/-- The name of an argument and the type that is asked for, up to what the type needs. -/
inductive KindText (name kind : String) : List Char → Prop where
  | mk {b₁ b₂ b₃ b₄ : List Char} (hname : IsArgumentName name) (h₁ : Blanks b₁) (h₂ : Blanks b₂) (h₃ : Blanks b₃)
      (h₄ : Blanks b₄) : KindText name kind (b₁ ++ (name.toList ++ (b₂ ++ ',' :: (b₃ ++ (kind.toList ++ b₄)))))

/-- The style of a number argument: nothing, or a comma and anything up to the closing brace. -/
def IsStyle (style : List Char) : Prop := style = [] ∨ style.head? = some ',' ∧ '}' ∉ style

/-- The text after the opening brace of an argument begins with its head and leaves `rest`. -/
inductive ReadsHead : Head → List Char → List Char → Prop where
  | argument {name : String} {b₁ b₂ rest : List Char} (hname : IsArgumentName name) (h₁ : Blanks b₁) (h₂ : Blanks b₂) :
      ReadsHead (.argument name) (b₁ ++ (name.toList ++ (b₂ ++ '}' :: rest))) rest
  | number {name : String} {a style rest : List Char} (ha : KindText name "number" a) (hstyle : IsStyle style) :
      ReadsHead (.number name) (a ++ (style ++ '}' :: rest)) rest
  /-- A plural without an offset counts from zero; its branches do not begin like an offset. -/
  | plural {name : String} {a b rest : List Char} (ha : KindText name "plural" a) (hb : Blanks b)
      (hblank : Stops isBlank rest) (hmark : ¬offsetMark <+: rest) :
      ReadsHead (.plural name (Number.zero false)) (a ++ ',' :: (b ++ rest)) rest
  | offset {name token : String} {offset : Number} {a b b' rest : List Char} (ha : KindText name "plural" a)
      (hb : Blanks b) (hb' : Blanks b') (htoken : IsToken token) (hoffset : Number.ofText? token.toList = some offset)
      (hstop : Stops isTokenChar rest) :
      ReadsHead (.plural name offset) (a ++ ',' :: (b ++ (offsetMark ++ (b' ++ (token.toList ++ rest))))) rest
  | select {name : String} {a rest : List Char} (ha : KindText name "select" a) :
      ReadsHead (.select name) (a ++ ',' :: rest) rest

/-- The selector of a branch and the brace that opens the branch. -/
inductive KeyText (selector : String) : List Char → Prop where
  | mk {b b' : List Char} (hb : Blanks b) (hselector : IsToken selector) (hb' : Blanks b') :
      KeyText selector (b ++ (selector.toList ++ (b' ++ ['{'])))

/-! ## Messages -/

/-- A part of a message with the tree that it stands for. -/
inductive Part where
  /-- Nodes, from a state of quoting on; `nested` if they stand in a branch. -/
  | nodes (quoting : Quoting) (inPlural nested : Bool) (nodes : List Node)
  /-- An argument after its opening brace. -/
  | argument (inPlural : Bool) (node : Node)
  | pluralBranches (branches : List (PluralKey × List Node))
  | selectBranches (inPlural : Bool) (branches : List (String × List Node))

/-- Where an argument begins. -/
structure ArgumentPlace where
  inPlural : Bool
  /-- The state of quoting before its opening brace: `maybeOff` directly behind the apostrophe that ends a quote. -/
  quoting : Quoting
  /-- The text after its opening brace. -/
  unread : List Char

/-- The text begins with the part and leaves the rest; arguments begin at the places. -/
inductive Reads : Part → List Char → List Char → List ArgumentPlace → Prop where
  | done {q : Quoting} {p n : Bool} : Reads (.nodes q p n (consText q.atEnd [])) [] [] []
  | text {q q' : Quoting} {p n : Bool} {c : Char} {out s rest : List Char} {nodes : List Node} {places : List ArgumentPlace}
      (hstep : textStep p q c = some (out, q')) (hnodes : Reads (.nodes q' p n nodes) s rest places) :
      Reads (.nodes q p n (prepend out nodes)) (c :: s) rest places
  | closed {q : Quoting} {p : Bool} {s : List Char} (hstep : textStep p q '}' = none) :
      Reads (.nodes q p true []) ('}' :: s) ('}' :: s) []
  | pound {q : Quoting} {p n : Bool} {s rest : List Char} {nodes : List Node} {places : List ArgumentPlace}
      (hstep : textStep p q '#' = none) (hnodes : Reads (.nodes .off p n nodes) s rest places) :
      Reads (.nodes q p n (.pound :: nodes)) ('#' :: s) rest places
  | argument {q : Quoting} {p n : Bool} {s t rest : List Char} {node : Node} {nodes : List Node}
      {inside places : List ArgumentPlace} (hstep : textStep p q '{' = none) (hnode : Reads (.argument p node) s t inside)
      (hnodes : Reads (.nodes .off p n nodes) t rest places) :
      Reads (.nodes q p n (node :: nodes)) ('{' :: s) rest (⟨p, q, s⟩ :: (inside ++ places))
  | value {p : Bool} {name : String} {s rest : List Char} (hhead : ReadsHead (.argument name) s rest) :
      Reads (.argument p (.argument name)) s rest []
  | number {p : Bool} {name : String} {s rest : List Char} (hhead : ReadsHead (.number name) s rest) :
      Reads (.argument p (.number name)) s rest []
  | plural {p : Bool} {name : String} {offset : Number} {s t rest : List Char} {branches : List (PluralKey × List Node)}
      {places : List ArgumentPlace} (hhead : ReadsHead (.plural name offset) s t)
      (hbranches : Reads (.pluralBranches branches) t rest places)
      (hother : hasBranch (.category .other) branches = true) :
      Reads (.argument p (.plural name offset branches)) s rest places
  | select {p : Bool} {name : String} {s t rest : List Char} {branches : List (String × List Node)}
      {places : List ArgumentPlace} (hhead : ReadsHead (.select name) s t)
      (hbranches : Reads (.selectBranches p branches) t rest places) (hother : hasBranch "other" branches = true) :
      Reads (.argument p (.select name branches)) s rest places
  | pluralEnd {b rest : List Char} (hb : Blanks b) : Reads (.pluralBranches []) (b ++ '}' :: rest) rest []
  | pluralBranch {selector : String} {key : PluralKey} {a s t rest : List Char} {nodes : List Node}
      {branches : List (PluralKey × List Node)} {inside places : List ArgumentPlace} (ha : KeyText selector a)
      (hkey : pluralKey selector = .ok key) (hnodes : Reads (.nodes .off true true nodes) s ('}' :: t) inside)
      (hbranches : Reads (.pluralBranches branches) t rest places) :
      Reads (.pluralBranches ((key, nodes) :: branches)) (a ++ s) rest (inside ++ places)
  | selectEnd {p : Bool} {b rest : List Char} (hb : Blanks b) : Reads (.selectBranches p []) (b ++ '}' :: rest) rest []
  | selectBranch {p : Bool} {key : String} {a s t rest : List Char} {nodes : List Node}
      {branches : List (String × List Node)} {inside places : List ArgumentPlace} (ha : KeyText key a)
      (hnodes : Reads (.nodes .off p true nodes) s ('}' :: t) inside)
      (hbranches : Reads (.selectBranches p branches) t rest places) :
      Reads (.selectBranches p ((key, nodes) :: branches)) (a ++ s) rest (inside ++ places)

end Phrasebook.Message
