import Phrasebook.Message.Descriptor
import Phrasebook.Source.Literal
import Phrasebook.Template.Normalize

/-!
# Descriptors in source text

A descriptor is an object literal with an `id` and perhaps a `defaultMessage`; other entries are passed over, and of two
entries with one key the last counts. The placeholders of the default message are brought into one form.
-/

namespace Phrasebook

namespace Descriptor

/-- May the character stand in an id? -/
def isIdChar (c : Char) : Bool := c.isAlpha || c == '_' || c == '.' || c == '-'

/-- The last value of a key. -/
def lastValue? (key : String) (entries : List (String × Literal)) : Option Literal :=
  (entries.reverse.find? (·.1 == key)).map Prod.snd

/-- The id that a value names. -/
def idOf : Option Literal → Except DescriptorError String
  | some (.string s) =>
    if !s.isEmpty && s.all isIdChar then .ok (String.ofList s) else .error (.invalidId (String.ofList s))
  | none | some .null => .error .missingId
  | some _ => .error .idNotString

/-- The default message that a value gives; an empty text gives none. -/
def defaultMessageOf : Option Literal → Except DescriptorError (Option String)
  | none | some .null => .ok none
  | some (.string s) => .ok (if s.isEmpty then none else some (String.ofList (Template.normalizeChars s)))
  | some _ => .error .defaultMessageNotString

/-- The descriptor written in a text. -/
def read (text : String) : Except DescriptorError Descriptor := do
  let entries ← Literal.entriesOf text
  let id ← idOf (lastValue? "id" entries)
  let defaultMessage ← defaultMessageOf (lastValue? "defaultMessage" entries)
  return ⟨id, defaultMessage⟩

end Descriptor

end Phrasebook
