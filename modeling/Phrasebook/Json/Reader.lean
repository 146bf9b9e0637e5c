import Phrasebook.Json.Tree
import Phrasebook.OrderedMap

/-!
# Reading JSON

A value is read from its tree. Strings must name texts, numbers must be in range, and lists may not be nested deeper
than `maxDepth`; a member that comes again keeps its first place and takes its last value.
-/

namespace Phrasebook.Json

/-- How deep arrays and objects may be nested. -/
def maxDepth : Nat := 127

mutual

/-- How deep the arrays and objects of a tree are nested. -/
def Tree.depth : Tree → Nat
  | .array items => Tree.depthOfItems items + 1
  | .object members => Tree.depthOfMembers members + 1
  | _ => 0

/-- The greatest depth of the items. -/
def Tree.depthOfItems : List Tree → Nat
  | [] => 0
  | item :: items => max (Tree.depth item) (Tree.depthOfItems items)

/-- The greatest depth of the members. -/
def Tree.depthOfMembers : List (Option String × Tree) → Nat
  | [] => 0
  | (_, value) :: members => max (Tree.depth value) (Tree.depthOfMembers members)

end

mutual

/-- The value of a tree. -/
def Tree.value? : Tree → Option Json
  | .null => some .null
  | .bool b => some (.bool b)
  | .number n => n.value?
  | .string s => s.map .string
  | .array items => (Tree.items? items).map .array
  | .object members => (Tree.members? members).map fun pairs => .object (OrderedMap.ofList pairs).entries

/-- The values of trees. -/
def Tree.items? : List Tree → Option (List Json)
  | [] => some []
  | item :: items => do
    let value ← Tree.value? item
    return value :: (← Tree.items? items)

/-- The names and values of members. -/
def Tree.members? : List (Option String × Tree) → Option (List (String × Json))
  | [] => some []
  | (name, tree) :: members => do
    let name ← name
    let value ← Tree.value? tree
    return (name, value) :: (← Tree.members? members)

end

/-- The value of a JSON text. -/
def read? (text : String) : Option Json := do
  let tree ← Tree.read? text
  if tree.depth ≤ maxDepth then tree.value? else none

/-- The members of a JSON text that is an object. -/
def readObject? (text : String) : Option (OrderedMap Json) :=
  match read? text with
  | some (.object members) => some (OrderedMap.ofList members)
  | _ => none

end Phrasebook.Json
