import Phrasebook.Number.Basic

/-!
# JSON values

The values of JSON texts. Whole numbers that fit 64 bits stay whole; every other number is a binary64 value. The members
of an object keep their order, and readers give every name once.
-/

namespace Phrasebook

/-- A JSON value. -/
inductive Json where
  | null
  | bool (b : Bool)
  | integer (n : Int)
  | real (x : Number)
  | string (s : String)
  | array (items : List Json)
  | object (members : List (String × Json))
  deriving Repr

namespace Json

/-- The text of a string, and nothing for any other value. -/
def text? : Json → Option String
  | .string s => some s
  | _ => none

/-- Does the value say something: is it neither null nor an empty string? -/
def hasText : Json → Bool
  | .null => false
  | .string s => s != ""
  | _ => true

end Json

end Phrasebook
