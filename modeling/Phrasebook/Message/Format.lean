import Phrasebook.Message.Reader
import Phrasebook.Message.Value

/-!
# Formatting messages

A message is read and rendered with the values of its arguments. A plural takes its first branch for the exact value,
else its first branch for the plural category of the value less the offset, else its first `other` branch; a select
takes its first branch for the value's text, else its first `other` branch. Inside a plural, `#` is the value less the
offset.
-/

namespace Phrasebook

/-- Is the key one for exactly this number? -/
def PluralKey.isExactly (x : Number) : PluralKey → Bool
  | .exact y => y.eq x
  | .category _ => false

/-- Is the key one for this category? -/
def PluralKey.isCategory (c : PluralCategory) : PluralKey → Bool
  | .exact _ => false
  | .category d => d == c

namespace Message

/-- The value of an argument. -/
def valueOf (values : Variables) (name : String) : Except FormatError Value :=
  match values.get? name with
  | some value => .ok value
  | none => .error (.missingArgument name)

/-- The value of an argument as a number. -/
def numberOf (values : Variables) (name : String) : Except FormatError Number := do
  let value ← valueOf values name
  match value.number? with
  | some x => .ok x
  | none => .error (.notANumber name)

/-- The text of a `#`, which stands for itself where no plural surrounds it. -/
def poundText (locale : String) : Option Number → String
  | some x => x.grouped locale
  | none => "#"

mutual

/-- The text of a node; `pound` is the number that decided the nearest plural around. -/
def renderNode (locale : String) (values : Variables) (pound : Option Number) : Node → Except FormatError String
  | .text s => .ok s
  | .argument name => do return (← valueOf values name).display
  | .number name => do return (← numberOf values name).grouped locale
  | .pound => .ok (poundText locale pound)
  | .plural name offset branches => do
    let x ← numberOf values name
    let counted := x.sub offset
    let render := fun p => renderPlural locale values (some counted) p branches
    (render (PluralKey.isExactly x)
      <|> render (PluralKey.isCategory (.ofNumber locale counted))
      <|> render (PluralKey.isCategory .other)).getD (.error (.missingOther name))
  | .select name branches => do
    let value ← valueOf values name
    let render := fun p => renderSelect locale values pound p branches
    (render (· == value.display) <|> render (· == "other")).getD (.error (.missingOther name))

/-- The text of a message. -/
def renderNodes (locale : String) (values : Variables) (pound : Option Number) :
    List Node → Except FormatError String
  | [] => .ok ""
  | node :: nodes => do
    let first ← renderNode locale values pound node
    let others ← renderNodes locale values pound nodes
    return first ++ others

/-- The text of the first branch of a plural whose key satisfies `p`. -/
def renderPlural (locale : String) (values : Variables) (pound : Option Number) (p : PluralKey → Bool) :
    List (PluralKey × List Node) → Option (Except FormatError String)
  | [] => none
  | (key, nodes) :: branches =>
    if p key then some (renderNodes locale values pound nodes)
    else renderPlural locale values pound p branches

/-- The text of the first branch of a select whose key satisfies `p`. -/
def renderSelect (locale : String) (values : Variables) (pound : Option Number) (p : String → Bool) :
    List (String × List Node) → Option (Except FormatError String)
  | [] => none
  | (key, nodes) :: branches =>
    if p key then some (renderNodes locale values pound nodes)
    else renderSelect locale values pound p branches

end

end Message

/-- The step that turns a text with its placeholders filled into the final message. -/
structure Formatter where
  /-- The text of a message in a locale with the given values. -/
  format : (message locale : String) → Variables → Except FormatError String

/-- The formatter of this library's own message language. -/
def Formatter.standard : Formatter where
  format := fun message locale values => do
    let nodes ← Message.read message
    Message.renderNodes locale values none nodes

end Phrasebook
