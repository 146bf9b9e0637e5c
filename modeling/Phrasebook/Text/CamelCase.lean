import Phrasebook.Unicode.CaseMap
import Phrasebook.Unicode.Numeric

/-!
# Camel case

A text is cut into words at every character that is neither a letter nor a number, before a capital that follows a small
letter or a number, and before the last capital of a run when a small letter follows it. The words are then joined: the
first in lower case, the others with a capital in front.
-/

namespace Phrasebook.Text

open Unicode

/-- Does the capital `c` between `previous` and `rest` begin a new word? -/
def startsWord (previous c : Char) (rest : List Char) : Bool :=
  isUppercase c &&
    (isLowercase previous || isNumeric previous ||
      isUppercase previous && (rest.head?.map isLowercase).getD false)

/-- A word and those after it; an empty one is left out. -/
def consWord (word : List Char) (words : List (List Char)) : List (List Char) :=
  if word.isEmpty then words else word :: words

/-- The end of the word that `previous` belongs to, and the words after it. -/
def wordsAfter (previous : Char) : List Char → List Char × List (List Char)
  | [] => ([], [])
  | c :: rest =>
    let (word, words) := wordsAfter c rest
    if !isAlphanumeric c then ([], consWord word words)
    else if startsWord previous c rest then ([], (c :: word) :: words)
    else (c :: word, words)

/-- The words of a text. -/
def words (s : List Char) : List (List Char) :=
  let (word, words) := wordsAfter ' ' s
  consWord word words

/-- A word with its first character in upper case and the others in lower case. -/
def capitalize : List Char → List Char
  | [] => []
  | c :: rest => upperChar c ++ lower rest

/-- The first word in lower case, followed by the others capitalized. -/
def joinCamel : List (List Char) → List Char
  | [] => []
  | first :: others => lower first ++ others.flatMap capitalize

/-- The text in lower camel case. -/
def camelCase (s : List Char) : List Char := joinCamel (words s)

end Phrasebook.Text
