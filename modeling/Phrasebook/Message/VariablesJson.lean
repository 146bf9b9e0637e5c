import Phrasebook.Json.Reader
import Phrasebook.Message.Value

/-!
# Values as JSON

The values of a message as an object whose members are texts and numbers, and nothing else.
-/

namespace Phrasebook

namespace Value

/-- The value that a tree stands for. -/
def ofTree? : Json.Tree → Option Value
  | .string s => s.map .text
  | .number n =>
    match n.value? with
    | some (.integer k) => some (.number (Number.ofInt k))
    | some (.real x) => some (.number x)
    | _ => none
  | _ => none

/-- The value as JSON; a number that is not finite has no form of its own. -/
def toJson : Value → Json
  | .text s => .string s
  | .number (.finite negative mantissa exponent) => .real (.finite negative mantissa exponent)
  | .number _ => .null

end Value

namespace Variables

/-- The value of a member with its name. -/
def member? : Option String × Json.Tree → Option (String × Value)
  | (some name, tree) => (Value.ofTree? tree).map fun value => (name, value)
  | (none, _) => none

/-- The values written in a text. -/
def read? (text : String) : Option Variables :=
  match Json.Tree.read? text with
  | some (.object members) => (members.mapM member?).map OrderedMap.ofList
  | _ => none

/-- The values as an object. -/
def toJson (v : Variables) : Json := .object (v.entries.map fun (name, value) => (name, value.toJson))

end Variables

end Phrasebook
