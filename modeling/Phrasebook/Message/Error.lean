/-!
# Why a message cannot be formatted
-/

namespace Phrasebook

/-- A fault in the text of a message or in the values given for it. Offsets count characters. -/
inductive FormatError where
  /-- The text breaks a rule of the message language. -/
  | malformed (offset : Nat) (reason : String)
  | missingArgument (name : String)
  | missingOther (name : String)
  | unsupportedType (kind : String)
  | notANumber (name : String)
  deriving DecidableEq, Repr

/-- The wording of an error. -/
def FormatError.message : FormatError → String
  | .malformed offset reason => "syntax error at offset " ++ toString offset ++ ": " ++ reason
  | .missingArgument name => "no value provided for argument '" ++ name ++ "'"
  | .missingOther name => "argument '" ++ name ++ "' has no 'other' branch"
  | .unsupportedType kind => "unsupported argument type '" ++ kind ++ "'"
  | .notANumber name => "value of argument '" ++ name ++ "' is not a number"

end Phrasebook
