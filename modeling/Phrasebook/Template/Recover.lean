import Phrasebook.Message.Value
import Phrasebook.Template.Basic

/-!
# Values recovered from a text

The inverse of filling a template: the text between the placeholders is looked for in a given text, from the left, and
what stands before each of its occurrences is the value of the placeholder before it. Only `{name}` is a placeholder
here; a reference to another message is text. Unless there is exactly one value for every placeholder, none is
recovered.
-/

namespace Phrasebook.Template

open Text

/-- A template as its first text and, for every `{name}`, the name and the text after it. -/
structure Segments where
  first : List Char
  named : List (String × List Char)
  deriving DecidableEq, Repr

/-- A character in front of the first text. -/
def Segments.cons (c : Char) (segments : Segments) : Segments := ⟨c :: segments.first, segments.named⟩

/-- The texts of a template between its `{name}` placeholders. -/
def segments (s : List Char) : Segments :=
  match s with
  | [] => ⟨[], []⟩
  | c :: rest =>
    if c = '{' then
      match readName? rest with
      | some name =>
        let after := segments name.rest
        ⟨[], (name.value, after.first) :: after.named⟩
      | none => (segments rest).cons c
    else (segments rest).cons c
  termination_by s.length
  decreasing_by
    · exact Nat.lt_succ_of_lt name.below
    · exact Nat.lt_succ_self _
    · exact Nat.lt_succ_self _

/-- The texts before the occurrences of the segments, one after the other, as far as they are found. A segment that is
empty is found behind all that is left. -/
def textsBefore : List (List Char) → List Char → List (List Char)
  | [], _ => []
  | segment :: segments, s =>
    if segment.isEmpty then s :: textsBefore segments []
    else match breakOn? segment s with
      | none => []
      | some (before, after) => before :: textsBefore segments after

/-- The texts between the segments of a template; an empty first segment is found at the front. -/
def textsBetween (segments : Segments) (s : List Char) : List (List Char) :=
  let later := segments.named.map Prod.snd
  if segments.first.isEmpty then textsBefore later s else textsBefore (segments.first :: later) s

/-- The values that filling the template would need to give the text, if they can be told. -/
def recover (template text : String) : Variables :=
  let segments := segments template.toList
  let names := segments.named.map Prod.fst
  let values := (textsBetween segments text.toList).filter (!·.isEmpty)
  if values.length = names.length then
    OrderedMap.ofList ((names.zip values).map fun (name, value) => (name, .text (String.ofList value)))
  else .empty

end Phrasebook.Template
