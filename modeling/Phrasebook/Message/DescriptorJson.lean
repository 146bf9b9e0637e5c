import Phrasebook.Json.Basic
import Phrasebook.Message.Descriptor

/-!
# Descriptors as JSON

A descriptor is an object of its id and, if it has one, its default message.
-/

namespace Phrasebook.Descriptor

/-- The members of a descriptor, as names and texts. -/
def members (d : Descriptor) : List (String × String) :=
  ("id", d.id) :: (d.defaultMessage.map fun message => ("defaultMessage", message)).toList

/-- The descriptor as an object. -/
def toJson (d : Descriptor) : Json := .object (d.members.map fun (name, value) => (name, .string value))

end Phrasebook.Descriptor
