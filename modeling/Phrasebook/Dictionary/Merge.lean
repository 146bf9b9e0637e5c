import Phrasebook.Dictionary.Order

/-!
# Merging found ids into a dictionary

For every id found in the sources, a value that says something stays. Otherwise the id takes the default message, where
the locale is that of the default messages; else the text of the fallback locale; else an empty text, if empty entries
are wanted; else it is left alone.
-/

namespace Phrasebook

/-- How ids are merged into the dictionary of a locale. -/
structure MergeOptions where
  /-- Do the default messages apply to the locale? -/
  isDefaultLanguage : Bool
  /-- Do ids without a message get an empty one? -/
  emptyTags : Bool
  /-- Are ids kept that were not found? -/
  reserveKeys : Bool
  order : KeyOrder

/-- A merged dictionary and what changed. -/
structure MergeOutcome where
  dictionary : Dictionary
  /-- Ids that are new. -/
  added : Nat
  /-- Ids whose value was empty and is now another. -/
  filled : Nat
  /-- Ids that were not found and are gone. -/
  removed : Nat

namespace Dictionary

/-- The text of an id in the fallback locale, if it has one. -/
def fallbackText? (fallback : Option Dictionary) (id : String) : Option String :=
  (fallback.bind (·.get? id)).bind fun value => if value.hasText then value.text? else none

/-- The text that an id without one takes. -/
def candidate? (defaultMessages : OrderedMap String) (fallback : Option Dictionary) (options : MergeOptions)
    (id : String) : Option String :=
  (if options.isDefaultLanguage then defaultMessages.get? id else none)
    <|> fallbackText? fallback id
    <|> (if options.emptyTags then some "" else none)

/-- The outcome after one more id, which takes `candidate` if it has no text. -/
def mergeId (outcome : MergeOutcome) (id : String) (candidate : Option String) : MergeOutcome :=
  match candidate, outcome.dictionary.get? id with
  | none, _ => outcome
  | some text, none =>
    { outcome with dictionary := outcome.dictionary.insert id (.string text), added := outcome.added + 1 }
  | some text, some value =>
    if value.hasText || value.text? == some text then outcome
    else { outcome with dictionary := outcome.dictionary.insert id (.string text), filled := outcome.filled + 1 }

/-- The dictionary with ids merged into it. -/
def merge (existing : Dictionary) (ids : List String) (defaultMessages : OrderedMap String)
    (fallback : Option Dictionary) (options : MergeOptions) : MergeOutcome :=
  let kept := if options.reserveKeys then existing else existing.filter fun id _ => ids.contains id
  let start : MergeOutcome := ⟨kept, 0, 0, existing.size - kept.size⟩
  let outcome := ids.foldl (fun o id => mergeId o id (candidate? defaultMessages fallback options id)) start
  { outcome with dictionary := outcome.dictionary.order ids options.order }

end Dictionary

end Phrasebook
