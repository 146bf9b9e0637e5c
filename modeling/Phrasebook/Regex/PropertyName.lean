import Phrasebook.Regex.Written
import Phrasebook.Unicode.Age
import Phrasebook.Unicode.Break

/-!
# Sets by the names of properties

Names are compared without case, spaces, hyphens and underscores, without a leading `is`, and by their ASCII characters
alone. A name alone stands for a property, a category or a script; a name with a value for the characters that have it.
-/

namespace Phrasebook.Regex

open Unicode

/-- The ASCII characters of a name in lower case, without spaces, hyphens and underscores. -/
def plainName (name : List Char) : List Char :=
  (name.filter fun c => c.toNat < 0x80 && !(c == ' ' || c == '-' || c == '_')).map Char.toLower

/-- A name as names are compared. The name `isc` keeps its beginning. -/
def looseName : List Char → String
  | c :: d :: rest =>
    if c.toLower = 'i' ∧ d.toLower = 's' then
      let plain := plainName rest
      if plain = ['c'] then "isc" else String.ofList plain
    else String.ofList (plainName (c :: d :: rest))
  | name => String.ofList (plainName name)

/-- The names of categories that are also names of properties with values. -/
def categoryFirst : List String := ["cf", "sc", "lc"]

/-- The set that a name alone stands for. -/
def setNamed? (name : String) : Option CharSet :=
  (if categoryFirst.contains name then none else property? name) <|> category? name <|> script? name

/-- The set of the characters whose value of a property is the given one. -/
def setValued? (name value : String) : Option CharSet :=
  match name with
  | "generalcategory" | "gc" => category? value
  | "script" | "sc" => script? value
  | "scriptextensions" | "scx" => scriptExtensions? value
  | "age" => age? value
  | "graphemeclusterbreak" | "gcb" => clusterBreak? value
  | "wordbreak" | "wb" => wordBreak? value
  | "sentencebreak" | "sb" => sentenceBreak? value
  | _ => none

/-- The set of a property. -/
def PropertyName.set? : PropertyName → Option CharSet
  | .alone name => setNamed? (looseName name)
  | .valued name value _ => setValued? (looseName name) (looseName value)

/-- Are the characters meant that do not have the value? -/
def PropertyName.differs : PropertyName → Bool
  | .alone _ => false
  | .valued _ _ differs => differs

end Phrasebook.Regex
