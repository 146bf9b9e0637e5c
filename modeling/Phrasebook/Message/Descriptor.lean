/-!
# Descriptors
-/

namespace Phrasebook

/-- Names a message and says what to show where the catalogue has no template for it. -/
structure Descriptor where
  id : String
  defaultMessage : Option String
  deriving DecidableEq, Repr

end Phrasebook
