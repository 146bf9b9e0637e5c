import Phrasebook.OrderedMap

/-!
# Catalogues

A catalogue holds the templates of every locale. It is looked up exactly: a regional locale does not fall back to its
language. A locale whose template for an id is empty has a gap, which can be filled from another locale; the text then
carries that locale's name in brackets.
-/

namespace Phrasebook

/-- Message ids with their templates, in one locale. -/
abbrev Templates := OrderedMap String

/-- The templates of every locale. -/
structure Catalogue where
  locales : OrderedMap Templates

namespace Catalogue

/-- The template of an id in a locale. -/
def lookup (c : Catalogue) (id locale : String) : Option String := (c.locales.get? locale).bind (·.get? id)

/-- The text that fills a gap from another locale. -/
def filling (source template : String) : String := "[" ++ source ++ "]" ++ template

/-- A template, or what fills it if it is empty and the other locale has a text for it. -/
def fillTemplate (source : String) (defaults : Templates) (id template : String) : String :=
  if template = "" then
    match defaults.get? id with
    | some text => if text = "" then template else filling source text
    | none => template
  else template

/-- The catalogue with the gaps of all other locales filled from `source`. -/
def fillGaps (c : Catalogue) (source : String) : Catalogue :=
  match c.locales.get? source with
  | none => c
  | some defaults =>
    ⟨c.locales.mapValues fun locale templates =>
      if locale = source then templates else templates.mapValues (fillTemplate source defaults)⟩

end Catalogue

end Phrasebook
