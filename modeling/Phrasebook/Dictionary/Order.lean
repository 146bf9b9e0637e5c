import Phrasebook.Failure
import Phrasebook.Json.Basic
import Phrasebook.OrderedMap

/-!
# The order of a dictionary

A dictionary is the content of a locale file: ids with JSON values, of which texts are messages and all others are kept
as they are. Its keys are put in one of three orders when it is written again.
-/

namespace Phrasebook

/-- The content of a locale file. -/
abbrev Dictionary := OrderedMap Json

/-- How the keys of a dictionary are ordered. -/
inductive KeyOrder where
  /-- Ascending. -/
  | keys
  /-- As the ids are found in the sources, then the others. -/
  | source
  /-- As they were, with new ids at the end. -/
  | none
  deriving DecidableEq, Repr

namespace KeyOrder

/-- The order that an option names; without one, keys stay as they were. -/
def ofOption : Option String → Except Failure KeyOrder
  | some "keys" => .ok .keys
  | some "source" => .ok .source
  | some "none" => .ok .none
  | Option.none => .ok .none
  | some other => .error (.invalidOrder other)

end KeyOrder

namespace Dictionary

/-- Moves an id from `rest`, if it is there, to the end of `taken`; the last of `rest` takes its place. -/
def take (taken rest : Dictionary) (id : String) : Dictionary × Dictionary :=
  match rest.get? id with
  | some value => (taken.insert id value, rest.swapErase id)
  | none => (taken, rest)

/-- The ids that are held in their order, then the others. -/
def bySource (d : Dictionary) (ids : List String) : Dictionary :=
  let (taken, rest) := ids.foldl (fun (taken, rest) id => take taken rest id) (.empty, d)
  rest.entries.foldl (fun m (id, value) => m.insert id value) taken

/-- The dictionary in an order; `ids` are those found in the sources. -/
def order (d : Dictionary) (ids : List String) : KeyOrder → Dictionary
  | .keys => d.sorted
  | .source => d.bySource ids
  | .none => d

end Dictionary

end Phrasebook
