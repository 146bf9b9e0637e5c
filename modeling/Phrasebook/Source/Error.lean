/-!
# Why a descriptor cannot be read
-/

namespace Phrasebook

/-- A fault in the text of a message descriptor. Offsets count the bytes of the text in UTF-8. -/
inductive DescriptorError where
  | expected (what : String) (offset : Nat)
  | unterminatedString (offset : Nat)
  | notALiteral (key : String)
  | missingId
  | idNotString
  | invalidId (id : String)
  | defaultMessageNotString
  deriving DecidableEq, Repr

/-- The wording of an error. -/
def DescriptorError.message : DescriptorError → String
  | .expected what offset => "expected " ++ what ++ " at offset " ++ toString offset
  | .unterminatedString offset => "unterminated string starting at offset " ++ toString offset
  | .notALiteral key => "value of '" ++ key ++ "' is not a literal"
  | .missingId => "missing 'id'"
  | .idNotString => "'id' must be a string"
  | .invalidId id => "invalid message id '" ++ id ++ "'"
  | .defaultMessageNotString => "'defaultMessage' must be a string"

end Phrasebook
