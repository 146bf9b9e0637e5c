import Phrasebook.Failure
import Phrasebook.Regex.Match
import Phrasebook.Regex.Reader

/-!
# Extraction rules

A rule finds messages in a line of source text. The first group of its expression holds either a descriptor or the id
itself; a second group, where there is one, holds an object whose property names are the keys of the message's values.
-/

namespace Phrasebook

/-- What the first group of a rule holds. -/
inductive CaptureKind where
  | descriptor
  | id
  deriving DecidableEq, Repr

/-- A rule as it is configured. -/
structure Pattern where
  regex : String
  kind : CaptureKind
  deriving DecidableEq, Repr

/-- A rule that can be applied. -/
structure Rule where
  matcher : Regex.Matcher
  kind : CaptureKind

namespace Pattern

/-- The rule of a pattern, whose expression must have a group. -/
def compile (p : Pattern) : Except Failure Rule :=
  match Regex.read? p.regex with
  | none => .error (.invalidRegex p.regex)
  | some regex => if regex.groupCount = 0 then .error (.noCaptureGroup p.regex) else .ok ⟨regex.matcher, p.kind⟩

/-- The rules of patterns. -/
def compileAll (patterns : List Pattern) : Except Failure (List Rule) := patterns.mapM compile

/-- The patterns used where none are configured: calls with a descriptor, by the long and the short name; short calls
with an id; tags with an id and perhaps values; and errors with a code and an id. -/
def standard : List Pattern := [
  ⟨"\\bformatMessage\\(\\s*(\\\x7b.+?\\\x7d)\\s*[,)]", .descriptor⟩,
  ⟨"\\b__\\(\\s*(\\\x7b.+?\\\x7d)\\s*[,)]", .descriptor⟩,
  ⟨"\\b__\\(\\s*'((?:[^'\\\\]|\\\\.)*)'\\s*\\)", .id⟩,
  ⟨"<FormattedMessage\\s+id=\"([^\"]+)\"(?:\\s*values=\\\x7b\\s*\\\x7b\\s*([^\x7b]+?)\\s*\\\x7d\\s*\\\x7d)?\\s*/>",
    .id⟩,
  ⟨"Meteor\\.Error\\(\\d+,\\s?'([\\w.]+)'.*\\)", .id⟩]

end Pattern

/-- The property names of an object, in or without its braces: what stands before the first colon of each part between
commas. -/
def propertyNames (source : List Char) : List (List Char) :=
  let inside := Text.dropEndWhile (· == '}') ((Text.trim source).dropWhile (· == '{'))
  ((Text.splitAt ',' inside).map fun part => Text.trim (part.takeWhile (· != ':'))).filter (!·.isEmpty)

end Phrasebook
