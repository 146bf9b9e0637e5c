import Phrasebook.Unicode.Word

/-!
# Regular expressions

An expression describes texts by fixed texts, sets of characters, assertions about a place, sequences, alternatives,
groups and repetitions. It prefers earlier alternatives to later ones, and more repetitions to fewer unless it is lazy.
-/

namespace Phrasebook

/-- A set of characters. -/
abbrev CharSet := Unicode.Ranges

/-- A condition on the word characters on either side of a place. -/
inductive WordAssertion where
  /-- Between a word character and another or no character. -/
  | boundary
  | noBoundary
  | start
  | stop
  /-- Not after a word character. -/
  | startHalf
  /-- Not before a word character. -/
  | stopHalf
  deriving DecidableEq, Repr

/-- A condition on the place between two characters. -/
inductive Assertion where
  | textStart
  | textEnd
  /-- After a line feed or at the start. With `crlf` a carriage return ends a line as well, and the two together are one
  end. -/
  | lineStart (crlf : Bool)
  | lineEnd (crlf : Bool)
  /-- On words of all characters, or of ASCII characters alone. -/
  | word (kind : WordAssertion) (unicode : Bool)
  deriving DecidableEq, Repr

/-- A regular expression. In a sequence and in alternatives only the second part may be of the same form. -/
inductive Regex where
  | empty
  | text (chars : List Char)
  | oneOf (set : CharSet)
  | assertion (a : Assertion)
  | sequence (first second : Regex)
  | alternatives (first second : Regex)
  /-- A group whose text is remembered under a number from one on. -/
  | group (index : Nat) (inside : Regex)
  /-- At least `least` and, if there is a bound, at most `most` repetitions. -/
  | repetition (least : Nat) (most : Option Nat) (lazily : Bool) (inside : Regex)
  deriving DecidableEq, Repr

/-- Is there a character, and is it one of a word? -/
def isWordSide (unicode : Bool) : Option Char → Bool
  | some c => if unicode then Unicode.isWordChar c else Unicode.isAsciiWordChar c
  | none => false

/-- Does the assertion hold between a word character or not and a word character or not? -/
def WordAssertion.holds (before after : Bool) : WordAssertion → Bool
  | .boundary => before != after
  | .noBoundary => before == after
  | .start => !before && after
  | .stop => before && !after
  | .startHalf => !before
  | .stopHalf => !after

/-- Does the assertion hold between two characters, or an end of the text? -/
def Assertion.holds (before after : Option Char) : Assertion → Bool
  | .textStart => before.isNone
  | .textEnd => after.isNone
  | .lineStart false => before.isNone || before == some '\n'
  | .lineStart true => before.isNone || before == some '\n' || before == some '\r' && after != some '\n'
  | .lineEnd false => after.isNone || after == some '\n'
  | .lineEnd true => after.isNone || after == some '\r' || after == some '\n' && before != some '\r'
  | .word kind unicode => kind.holds (isWordSide unicode before) (isWordSide unicode after)

namespace Regex

/-- The largest number of a group in the expression; zero if it has no group. -/
def groupCount : Regex → Nat
  | .empty => 0
  | .text _ => 0
  | .oneOf _ => 0
  | .assertion _ => 0
  | .sequence first second => max first.groupCount second.groupCount
  | .alternatives first second => max first.groupCount second.groupCount
  | .group index inside => max index inside.groupCount
  | .repetition _ _ _ inside => inside.groupCount

/-- The fewest characters of a match, unless a part of the expression matches nothing at all. -/
def shortest? : Regex → Option Nat
  | .empty => some 0
  | .text chars => some chars.length
  | .oneOf set => if set.isEmpty then none else some 1
  | .assertion _ => some 0
  | .sequence first second => do return (← first.shortest?) + (← second.shortest?)
  | .alternatives first second => do return min (← first.shortest?) (← second.shortest?)
  | .group _ inside => inside.shortest?
  | .repetition least _ _ inside => inside.shortest?.map (least * ·)

/-- The most characters of a match, unless there is no bound or a part of the expression matches nothing at all. -/
def longest? : Regex → Option Nat
  | .empty => some 0
  | .text chars => some chars.length
  | .oneOf set => if set.isEmpty then none else some 1
  | .assertion _ => some 0
  | .sequence first second => do return (← first.longest?) + (← second.longest?)
  | .alternatives first second => do return max (← first.longest?) (← second.longest?)
  | .group _ inside => inside.longest?
  | .repetition _ most _ inside => do return (← most) * (← inside.longest?)

/-- Does every match begin at the start of the text, as far as is seen from the first assertions? -/
def beginsAtStart : Regex → Bool
  | .assertion a => a == .textStart
  | .sequence first second => first.beginsAtStart || first.longest? == some 0 && second.beginsAtStart
  | .alternatives first second => first.beginsAtStart && second.beginsAtStart
  | .group _ inside => inside.beginsAtStart
  | .repetition least _ _ inside => least != 0 && inside.beginsAtStart
  | _ => false

/-- Does every match end at the end of the text, as far as is seen from the last assertions? -/
def endsAtEnd : Regex → Bool
  | .assertion a => a == .textEnd
  | .sequence first second => second.endsAtEnd || second.longest? == some 0 && first.endsAtEnd
  | .alternatives first second => first.endsAtEnd && second.endsAtEnd
  | .group _ inside => inside.endsAtEnd
  | .repetition least _ _ inside => least != 0 && inside.endsAtEnd
  | _ => false

end Regex

end Phrasebook
