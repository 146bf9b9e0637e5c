import Phrasebook.Context.Basic
import Phrasebook.Message.Descriptor
import Phrasebook.Warning

/-!
# Messages in a context

A message is found by its id, its placeholders are filled, and the result goes through the formatter. Nothing here
fails: what cannot be found or formatted stays as it is written and is told as a warning, and the caller may give a text
to be used instead of an incomplete one.

A reference to another message is resolved in the same locale and without values of its own. The ids being resolved form
a chain, in which no id may occur twice and which has at most `maxDepth` of them, so that resolving ends whatever the
catalogue holds.
-/

namespace Phrasebook

namespace Context

/-- How many messages may be resolved inside one another. -/
def maxDepth : Nat := 8

/-! ## Filling placeholders -/

/-- A part of an id with its value, if the value is given. -/
def fillFragment? (values : Variables) : Fragment → Option String
  | .text s => some (String.ofList s)
  | .name n => (values.get? n).map Value.display

/-- What stands for a part of a template, or nothing if it stays as it is written. -/
def fillPiece? (values : Variables) (resolve : List Fragment → Logged (Option String)) :
    Piece → Logged (Option String)
  | .text s => pure (some (String.ofList s))
  | .name n => pure ((values.get? n).map Value.display)
  | .reference id => resolve id

/-- A filled template, with the placeholders that stayed as they are written. -/
structure Filled where
  text : String
  missing : List String

/-- A part, as filled or else as written, in front of a filled template. -/
def Filled.cons (written : List Char) (filling : Option String) (others : Filled) : Filled :=
  match filling with
  | some s => ⟨s ++ others.text, others.missing⟩
  | none => ⟨String.ofList written ++ others.text, String.ofList written :: others.missing⟩

/-- The parts of an id with their values. -/
def fillFragments (values : Variables) : List Fragment → Filled
  | [] => ⟨"", []⟩
  | fragment :: fragments =>
    (fillFragments values fragments).cons fragment.written (fillFragment? values fragment)

/-- The parts of a template with what stands for them. -/
def fillPieces (values : Variables) (resolve : List Fragment → Logged (Option String)) : List Piece → Logged Filled
  | [] => pure ⟨"", []⟩
  | piece :: pieces => do
    let filling ← fillPiece? values resolve piece
    let others ← fillPieces values resolve pieces
    return others.cons piece.written filling

/-- The text of a filled template, unless it is incomplete and there is a text to be used instead. -/
def orFallback (template : String) (fallback : Option String) (filled : Filled) : Logged String :=
  if filled.missing.isEmpty then pure filled.text
  else do
    Logged.warn (.valuesMissing template filled.missing)
    return fallback.getD filled.text

/-- A template with its placeholders filled. Templates without placeholders need no values. -/
def fill (template : String) (values : Option Variables) (fallback : Option String)
    (resolve : Variables → List Fragment → Logged (Option String)) : Logged String :=
  let pieces := Template.pieces template.toList
  if !pieces.any Piece.isPlaceholder then pure template
  else
    let fillWith := fun given => do
      let filled ← fillPieces given (resolve given) pieces
      orFallback template fallback filled
    match values, fallback with
    | some given, _ => fillWith given
    | none, some text => do
      Logged.warn (.valuesNotProvided template)
      return text
    | none, none => do
      Logged.warn (.valuesNotProvided template)
      fillWith .empty

/-- The id that a reference names. -/
def referencedId (values : Variables) (id : List Fragment) : Logged String :=
  orFallback (String.ofList (id.flatMap Fragment.written)) none (fillFragments values id)

/-! ## Formatting -/

/-- A text, unless it is absent or empty. -/
def nonempty (text : Option String) : Option String := text.filter (· ≠ "")

/-- The template of a descriptor: from the catalogue, or else its own. -/
def templateOf (c : Context) (locale : Option String) (descriptor : Descriptor) : Option String :=
  nonempty (c.lookup descriptor.id locale) <|> nonempty descriptor.defaultMessage

/-- The text after the formatter, or as it was where the formatter refuses it. -/
def present (c : Context) (locale : Option String) (values : Variables) (text : String) : Logged String :=
  match c.formatter.format text (c.localeOf locale) values with
  | .ok formatted => pure formatted
  | .error cause => do
    Logged.warn (.notFormatted text cause)
    return text

/-- The message of a descriptor, given what stands for references to other messages. -/
def formatWith (c : Context) (locale : Option String) (descriptor : Descriptor) (values : Option Variables)
    (fallback : Option String) (resolve : Variables → List Fragment → Logged (Option String)) : Logged String :=
  match c.templateOf locale descriptor, fallback with
  | some template, _ => do
    let filled ← fill template values fallback resolve
    c.present locale (values.getD .empty) filled
  | none, some text => pure text
  | none, none => do
    Logged.warn (.messageNotFound descriptor.id)
    let filled ← fill descriptor.id values none resolve
    c.present locale (values.getD .empty) filled

/-- What stands for a reference inside the messages of `chain`, the outermost first, when `remaining` more messages may
be resolved. -/
def resolve (c : Context) (locale : Option String) :
    (remaining : Nat) → (chain : List String) → Variables → List Fragment → Logged (Option String)
  | remaining, chain, values, reference => do
    let id ← referencedId values reference
    if id ∈ chain then
      Logged.warn (.referenceToItself id chain)
      return none
    else match remaining with
      | 0 =>
        Logged.warn (.referenceTooDeep id chain.length)
        return none
      | remaining + 1 =>
        some <$> c.formatWith locale ⟨id, none⟩ (some .empty) none (c.resolve locale remaining (chain ++ [id]))

/-- The message of a descriptor. With neither a template nor a fallback, its id is used. -/
def formatMessage (c : Context) (descriptor : Descriptor) (values : Option Variables)
    (locale fallback : Option String) : Logged String :=
  c.formatWith locale descriptor values fallback (c.resolve locale (maxDepth - 1) [descriptor.id])

/-- A template with its placeholders filled in the context. -/
def replaceVariables (c : Context) (template : String) (values : Option Variables) (locale fallback : Option String) :
    Logged String :=
  fill template values fallback (c.resolve locale maxDepth [])

end Context

end Phrasebook
