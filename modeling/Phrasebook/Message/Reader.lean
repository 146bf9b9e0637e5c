import Phrasebook.Message.Error
import Phrasebook.Message.Tree
import Phrasebook.Number.Reader
import Phrasebook.Text.Read
import Phrasebook.Unicode.Numeric

/-!
# Reading messages

The message language has arguments in braces, `{name}`, `{name, number}`, `{name, plural, …}` and
`{name, select, …}`, and text around them. In text a doubled apostrophe is an apostrophe, an apostrophe before a
brace quotes up to the next single apostrophe, and any other apostrophe is itself; inside a plural `#` is the number and
can be quoted like a brace.

Every reader returns what it leaves unread with a proof that it is shorter than what it was given, so reading ends. An
error is placed by the number of characters before the unread part.
-/

namespace Phrasebook

open Text Unicode

namespace Message

/-- A fault where `unread` begins, in a message of `total` characters. -/
def malformedAt (total : Nat) (unread : List Char) (reason : String) : FormatError :=
  .malformed (total - unread.length) reason

/-- Reads one given character. -/
def expect (total : Nat) (wanted : Char) (reason : String) (s : List Char) :
    Except FormatError (Read Unit s.length) :=
  match s with
  | [] => .error (malformedAt total [] reason)
  | c :: rest => if c = wanted then .ok (Read.first () c rest) else .error (malformedAt total (c :: rest) reason)

/-! ## Tokens -/

/-- Does the character belong to a token, rather than to what separates tokens? -/
def isTokenChar (c : Char) : Bool := !(isBlank c || c == '{' || c == '}' || c == ',')

/-- May the character stand in the name of an argument? -/
def isNameChar (c : Char) : Bool := isAlphanumeric c || c == '_'

/-- Reads a token and the white space before it. -/
def readToken (s : List Char) : Read String (s.length + 1) :=
  let start := skippedBlank () s
  start.andThen ((Read.ofRun isTokenChar start.rest).map String.ofList)

/-! ## Text -/

/-- Does the character mean more than itself in text? -/
def isMark (inPlural : Bool) (c : Char) : Bool := c == '{' || c == '}' || (inPlural && c == '#')

/-- Where a reader of text stands with respect to quotes. -/
inductive Quoting where
  /-- Outside quotes. -/
  | off
  /-- Outside quotes, after an apostrophe whose meaning the next character decides. -/
  | maybeOn
  /-- Inside quotes. -/
  | on
  /-- Inside quotes, after an apostrophe that ends them unless another one follows. -/
  | maybeOff
  deriving DecidableEq, Repr

/-- A character in front of what has been read. -/
def consRead (c : Char) (read : List Char × List Char) : List Char × List Char := (c :: read.1, read.2)

/-- Reads text up to the next mark that is not quoted. -/
def readText (inPlural : Bool) : Quoting → List Char → List Char × List Char
  | .maybeOn, [] => (['\''], [])
  | _, [] => ([], [])
  | .off, c :: rest =>
    if isMark inPlural c then ([], c :: rest)
    else if c = '\'' then readText inPlural .maybeOn rest
    else consRead c (readText inPlural .off rest)
  | .maybeOn, c :: rest =>
    if c = '\'' then consRead '\'' (readText inPlural .off rest)
    else if isMark inPlural c then consRead c (readText inPlural .on rest)
    else consRead '\'' (consRead c (readText inPlural .off rest))
  | .on, c :: rest =>
    if c = '\'' then readText inPlural .maybeOff rest else consRead c (readText inPlural .on rest)
  | .maybeOff, c :: rest =>
    if c = '\'' then consRead '\'' (readText inPlural .on rest)
    else if isMark inPlural c then ([], c :: rest)
    else consRead c (readText inPlural .off rest)

theorem length_readText_le (inPlural : Bool) (quoting : Quoting) (s : List Char) :
    (readText inPlural quoting s).2.length ≤ s.length := by
  fun_induction readText inPlural quoting s <;> simp_all [consRead] <;> omega

/-- Text that does not begin with a mark leaves less than it was given. -/
theorem length_readText_lt {inPlural : Bool} {c : Char} {rest : List Char} (h : isMark inPlural c = false) :
    (readText inPlural .off (c :: rest)).2.length < (c :: rest).length := by
  rw [readText]
  simp only [h, Bool.false_eq_true, if_false, List.length_cons]
  split
  · exact Nat.lt_succ_of_le (length_readText_le ..)
  · exact Nat.lt_succ_of_le (length_readText_le ..)

/-- Reads text that does not begin with a mark. -/
def readPlain? (inPlural : Bool) (s : List Char) : Option (Read (List Char) s.length) :=
  match s with
  | [] => none
  | c :: rest =>
    if h : isMark inPlural c = false then
      let text := readText inPlural .off (c :: rest)
      some ⟨text.1, text.2, length_readText_lt h⟩
    else none

/-- Text in front of nodes; no text makes no node. -/
def consText (text : List Char) (nodes : List Node) : List Node :=
  if text.isEmpty then nodes else .text (String.ofList text) :: nodes

/-! ## Arguments -/

/-- An argument up to its branches. -/
inductive Head where
  | argument (name : String)
  | number (name : String)
  | plural (name : String) (offset : Number)
  | select (name : String)

/-- Reads the name of an argument. -/
def readName (total : Nat) (s : List Char) : Except FormatError (Read String (s.length + 1)) :=
  let name := readToken s
  if name.value.isEmpty then .error (malformedAt total name.rest "empty argument name")
  else if !name.value.toList.all isNameChar then .error (malformedAt total name.rest "invalid argument name")
  else .ok name

/-- Reads the rest of a number argument; a style is passed over. -/
def readNumberEnd (total : Nat) (s : List Char) : Except FormatError (Read Unit s.length) := do
  let style := if s.head? = some ',' then Read.ofRun (· != '}') s else Read.nothing [] s
  let closed ← expect total '}' "unterminated number argument" style.rest
  return style.perhapsThen closed

/-- What begins the offset of a plural. -/
def offsetMark : List Char := "offset:".toList

/-- Reads the offset of a plural, which is zero unless it is given. -/
def readOffset (total : Nat) (s : List Char) : Except FormatError (Read Number (s.length + 1)) :=
  let start := skippedBlank () s
  match readPrefix? offsetMark start.rest with
  | none => .ok (start.map fun _ => Number.zero false)
  | some mark =>
    let token := readToken mark.rest
    match Number.ofText? token.value.toList with
    | none => .error (malformedAt total token.rest "invalid plural offset")
    | some offset => .ok (start.andThen (mark.andThen (token.map fun _ => offset)))

/-- Reads the type of an argument and what it needs before its branches. -/
def readKind (total : Nat) (name : String) (s : List Char) : Except FormatError (Read Head s.length) :=
  let kind := readToken s
  let start := kind.andThen (skippedBlank () kind.rest)
  match kind.value with
  | "number" => do
    let closed ← readNumberEnd total start.rest
    return start.perhapsThen (closed.map fun _ => .number name)
  | "plural" => do
    let comma ← expect total ',' "expected ',' after 'plural'" start.rest
    let offset ← readOffset total comma.rest
    return start.perhapsThen (comma.andThen (offset.map (.plural name)))
  | "select" => do
    let comma ← expect total ',' "expected ',' after 'select'" start.rest
    return start.perhapsThen (comma.map fun _ => .select name)
  | "" => .error (malformedAt total start.rest "missing argument type")
  | other => .error (.unsupportedType other)

/-- Reads an argument, after its opening brace, up to its branches. -/
def readHead (total : Nat) (s : List Char) : Except FormatError (Read Head s.length) := do
  let name ← readName total s
  match readVisible? name.rest with
  | none => .error (malformedAt total [] "expected ',' or '\x7d' after argument name")
  | some c =>
    if c.value = '}' then return name.perhapsThen (c.map fun _ => .argument name.value)
    else if c.value = ',' then
      let head ← readKind total name.value c.rest
      return name.perhapsThen (c.andThen head.afterOne)
    else .error (malformedAt total c.rest "expected ',' or '\x7d' after argument name")

/-! ## Branches -/

/-- The key that a selector names, or why it names none. -/
def pluralKey (selector : String) : Except String PluralKey :=
  match selector.toList with
  | '=' :: exact =>
    match Number.ofText? exact with
    | some x => .ok (.exact x)
    | none => .error "invalid exact plural selector"
  | _ =>
    match PluralCategory.ofKeyword? selector with
    | some c => .ok (.category c)
    | none => .error "unknown plural category"

/-- Reads the selector of a plural branch and the brace that opens the branch. -/
def readPluralKey (total : Nat) (s : List Char) : Except FormatError (Read PluralKey s.length) := do
  let selector := readToken s
  match pluralKey selector.value with
  | .error reason => .error (malformedAt total selector.rest reason)
  | .ok key =>
    let start := skippedBlank () selector.rest
    let brace ← expect total '{' "expected '\x7b' after plural selector" start.rest
    return selector.perhapsThen (start.perhapsThen (brace.map fun _ => key))

/-- Reads the selector of a select branch and the brace that opens the branch. -/
def readSelectKey (total : Nat) (s : List Char) : Except FormatError (Read String s.length) := do
  let selector := readToken s
  if selector.value.isEmpty then .error (malformedAt total selector.rest "expected select branch")
  else
    let start := skippedBlank () selector.rest
    let brace ← expect total '{' "expected '\x7b' after select key" start.rest
    return selector.perhapsThen (start.perhapsThen (brace.map fun _ => selector.value))

/-! ## Messages -/

mutual

/-- Reads nodes up to the end or, in a branch, up to the brace that closes it. -/
def readNodes (total : Nat) (inPlural nested : Bool) (s : List Char) :
    Except FormatError (Read (List Node) (s.length + 1)) :=
  match readPlain? inPlural s with
  | some text => do
    let nodes ← readNodes total inPlural nested text.rest
    return (text.andThen (nodes.map (consText text.value))).afterOne
  | none =>
    match s with
    | [] => .ok (Read.nothing [] [])
    | c :: rest =>
      if c = '{' then do
        let node ← readArgument total inPlural rest
        let nodes ← readNodes total inPlural nested node.rest
        return (node.andThen (nodes.map (node.value :: ·))).afterOne.afterOne
      else if c = '}' then
        if nested then .ok (Read.nothing [] (c :: rest))
        else .error (malformedAt total (c :: rest) "unmatched '\x7d'")
      else do
        let nodes ← readNodes total inPlural nested rest
        return (nodes.map (.pound :: ·)).afterOne
  termination_by s.length
  decreasing_by
    · exact text.below
    · exact Nat.lt_succ_self _
    · exact Nat.lt_succ_of_lt node.below
    · exact Nat.lt_succ_self _

/-- Reads an argument after its opening brace. -/
def readArgument (total : Nat) (inPlural : Bool) (s : List Char) : Except FormatError (Read Node s.length) := do
  let head ← readHead total s
  match head.value with
  | .argument name => return head.map fun _ => .argument name
  | .number name => return head.map fun _ => .number name
  | .plural name offset =>
    let branches ← readPluralBranches total head.rest
    if hasBranch (.category .other) branches.value then
      return head.andThen (branches.map (.plural name offset)).afterOne
    else .error (.missingOther name)
  | .select name =>
    let branches ← readSelectBranches total inPlural head.rest
    if hasBranch "other" branches.value then return head.andThen (branches.map (.select name)).afterOne
    else .error (.missingOther name)
  termination_by s.length
  decreasing_by all_goals exact head.below

/-- Reads the branches of a plural and the brace that closes it. -/
def readPluralBranches (total : Nat) (s : List Char) :
    Except FormatError (Read (List (PluralKey × List Node)) s.length) :=
  match readMark? '}' s with
  | some closed => .ok (closed.map fun _ => [])
  | none => do
    let key ← readPluralKey total s
    let body ← readNodes total true true key.rest
    let closed ← expect total '}' "unterminated plural branch" body.rest
    let branch := key.andThen (body.perhapsThen closed).afterOne
    let branches ← readPluralBranches total branch.rest
    return branch.andThen (branches.map ((key.value, body.value) :: ·)).afterOne
  termination_by s.length
  decreasing_by
    · exact key.below
    · exact branch.below

/-- Reads the branches of a select and the brace that closes it. -/
def readSelectBranches (total : Nat) (inPlural : Bool) (s : List Char) :
    Except FormatError (Read (List (String × List Node)) s.length) :=
  match readMark? '}' s with
  | some closed => .ok (closed.map fun _ => [])
  | none => do
    let key ← readSelectKey total s
    let body ← readNodes total inPlural true key.rest
    let closed ← expect total '}' "unterminated select branch" body.rest
    let branch := key.andThen (body.perhapsThen closed).afterOne
    let branches ← readSelectBranches total inPlural branch.rest
    return branch.andThen (branches.map ((key.value, body.value) :: ·)).afterOne
  termination_by s.length
  decreasing_by
    · exact key.below
    · exact branch.below

end

/-- The tree of a message. -/
def read (message : String) : Except FormatError (List Node) := do
  let s := message.toList
  let nodes ← readNodes s.length false false s
  if nodes.rest.isEmpty then return nodes.value
  else .error (malformedAt s.length nodes.rest "unexpected '\x7d'")

end Message

end Phrasebook
