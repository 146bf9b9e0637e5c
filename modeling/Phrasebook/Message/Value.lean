import Phrasebook.Number.Reader
import Phrasebook.Number.Plain
import Phrasebook.OrderedMap

/-!
# Values of a message

What stands in for a placeholder: a text or a number. A text that names a number may be used as one.
-/

namespace Phrasebook

/-- A value for a placeholder. -/
inductive Value where
  | text (s : String)
  | number (x : Number)
  deriving DecidableEq, Repr

/-- Placeholder names with their values. -/
abbrev Variables := OrderedMap Value

/-- How the value stands in a message. -/
def Value.display : Value → String
  | .text s => s
  | .number x => x.plain

/-- The value as a number; white space around a text does not matter. -/
def Value.number? : Value → Option Number
  | .text s => Number.ofText? (Text.trim s.toList)
  | .number x => some x

end Phrasebook
