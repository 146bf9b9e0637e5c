import Phrasebook.Message.Error
import Phrasebook.Source.Error

/-!
# Warnings

What goes wrong without stopping the work is told beside the result. A result with its warnings is a `Logged` value, and
warnings of steps that follow one another are kept in the order of the steps.
-/

namespace Phrasebook

/-- Something that the user should know. -/
inductive Warning where
  | messageNotFound (id : String)
  | notFormatted (text : String) (cause : FormatError)
  | valuesNotProvided (template : String)
  | valuesMissing (template : String) (placeholders : List String)
  | referenceToItself (id : String) (chain : List String)
  | referenceTooDeep (id : String) (depth : Nat)
  | messageNotText (path id value : String)
  | unreadableDescriptor (position code : String) (cause : DescriptorError)
  | invalidIgnore (pattern : String)
  | inaccessiblePath
  | invalidSourceGlob (pattern : String)
  | sourceDirectoryMissing (path : String)
  | fallbackFileMissing (path : String)
  | defaultLanguageNotConfigured (language : String)
  deriving DecidableEq, Repr

namespace Warning

/-- The wording of a warning. -/
def message : Warning → String
  | .messageNotFound _ => "could not find message, falling back to message id"
  | .notFormatted .. => "could not format message, using it unformatted"
  | .valuesNotProvided _ => "values are not provided"
  | .valuesMissing .. => "missing variable value(s)"
  | .referenceToItself .. => "message references itself, leaving it unresolved"
  | .referenceTooDeep .. => "nested message reference too deep, leaving it unresolved"
  | .messageNotText .. => "skipping non-string message"
  | .unreadableDescriptor .. => "could not parse message descriptor"
  | .invalidIgnore _ => "invalid ignore pattern"
  | .inaccessiblePath => "cannot access path"
  | .invalidSourceGlob _ => "invalid glob pattern in 'sourceDir'"
  | .sourceDirectoryMissing _ => "source directory does not exist"
  | .fallbackFileMissing _ => "fallback locale file not found"
  | .defaultLanguageNotConfigured _ =>
    "default language is not among the configured locales, default messages are not written"

/-- What the warning is about, as named texts. -/
def fields : Warning → List (String × String)
  | .messageNotFound id => [("id", id)]
  | .notFormatted text cause => [("text", text), ("err", cause.message)]
  | .valuesNotProvided template => [("template", template)]
  | .valuesMissing template placeholders =>
    [("template", template), ("missing", String.intercalate ", " placeholders)]
  | .referenceToItself id chain => [("id", id), ("chain", String.intercalate " -> " chain)]
  | .referenceTooDeep id depth => [("id", id), ("depth", toString depth)]
  | .messageNotText path id value => [("path", path), ("id", id), ("value", value)]
  | .unreadableDescriptor position code cause => [("pos", position), ("code", code), ("err", cause.message)]
  | .invalidIgnore pattern => [("pattern", pattern)]
  | .inaccessiblePath => []
  | .invalidSourceGlob pattern => [("pattern", pattern)]
  | .sourceDirectoryMissing path => [("path", path)]
  | .fallbackFileMissing path => [("path", path)]
  | .defaultLanguageNotConfigured language => [("default_language", language)]

/-- The warning on one line. -/
def line (w : Warning) : String :=
  "warning: " ++ w.message ++ String.join (w.fields.map fun (name, text) => " " ++ name ++ "=" ++ text)

end Warning

/-- A result and the warnings of the work that led to it. -/
structure Logged (α : Type) where
  value : α
  warnings : List Warning

namespace Logged

instance : Monad Logged where
  pure a := ⟨a, []⟩
  bind x f := ⟨(f x.value).value, x.warnings ++ (f x.value).warnings⟩

/-- A warning and nothing else. -/
def warn (w : Warning) : Logged Unit := ⟨(), [w]⟩

@[simp] theorem value_pure {α : Type} (a : α) : (pure a : Logged α).value = a := rfl

@[simp] theorem value_bind {α β : Type} (x : Logged α) (f : α → Logged β) : (x >>= f).value = (f x.value).value := rfl

instance : LawfulMonad Logged := LawfulMonad.mk' _
  (fun x => congrArg (Logged.mk x.value) (List.append_nil _))
  (fun _ _ => rfl)
  (fun x f g => congrArg (Logged.mk _) (List.append_assoc ..))

@[simp] theorem value_map {α β : Type} (f : α → β) (x : Logged α) : (f <$> x).value = f x.value := rfl

@[simp] theorem value_mapM {α β : Type} (f : α → Logged β) (l : List α) :
    (l.mapM f).value = l.map fun a => (f a).value := by
  induction l with
  | nil => rfl
  | cons a l ih => simp [List.mapM_cons, ih]

end Logged

end Phrasebook
