import Phrasebook.Json.Basic
import Phrasebook.Source.Scan

/-!
# Artifacts of an extraction

Besides the locale files an extraction writes what it found: a template of all ids without texts, the occurrences by
message, and the occurrences by file.
-/

namespace Phrasebook

namespace Artifacts

/-- The name of the file with all ids. -/
def templateName : String := "template.json"

/-- The name of the file with the occurrences by message. -/
def messageMapName : String := "message-map.json"

/-- The name of the file with the occurrences by file. -/
def fileMapName : String := "file-map.json"

/-- All ids with empty texts. -/
def template (ids : List String) : Json := .object (ids.map fun id => (id, .string ""))

/-- The members that describe an occurrence. -/
def occurrenceMembers (o : Occurrence) : List (String × Json) :=
  [("pos", .string o.position), ("code", .string o.code)] ++
    (o.keys.map fun keys => ("keys", Json.array (keys.map .string))).toList

/-- An occurrence with its message and its place. -/
def fileOccurrence (o : FileOccurrence) : Json :=
  .object (("id", .string o.id) :: (occurrenceMembers o.occurrence ++
    [("ln", .integer o.line), ("col", .integer o.column)]))

/-- The occurrences by message. -/
def messageMap (messages : OrderedMap (List Occurrence)) : Json :=
  .object (messages.entries.map fun (id, found) => (id, .array (found.map fun o => .object (occurrenceMembers o))))

/-- The occurrences by file. -/
def fileMap (files : OrderedMap (List FileOccurrence)) : Json :=
  .object (files.entries.map fun (file, found) => (file, .array (found.map fileOccurrence)))

end Artifacts

end Phrasebook
