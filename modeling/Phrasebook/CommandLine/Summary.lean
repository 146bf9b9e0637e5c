import Phrasebook.Project.Extract

/-!
# The summary of an extraction
-/

namespace Phrasebook

namespace Report

/-- Stands before what succeeded. -/
def successMark : String := "✓"

/-- The word for one or for another number of things. -/
def counted (count : Nat) (one many : String) : String := if count = 1 then one else many

/-- A number and the word for as many things. -/
def countText (count : Nat) (one many : String) : String := toString count ++ " " ++ counted count one many

/-- What was extracted, from how many files. -/
def headline (r : Report) : String :=
  successMark ++ " Extracted " ++ countText r.messagesExtracted "message" "messages" ++ " from " ++
    toString r.filesWithMessages ++ " of " ++ toString r.filesProcessed ++ " source " ++
    counted r.filesProcessed "file" "files"

/-- The lines about what could not be read. -/
def warningLines (r : Report) (verbose : Bool) : List String :=
  (if r.parseFailures = 0 then []
    else ["warning: " ++ toString r.parseFailures ++ " message " ++
      counted r.parseFailures "descriptor" "descriptors" ++ " could not be parsed" ++
      (if verbose then "" else " (see log output above)")]) ++
  (if r.skippedPaths = 0 then []
    else ["warning: " ++ countText r.skippedPaths "path" "paths" ++ " could not be accessed"])

/-- A number of changes, if there are any. -/
def changeText (count : Nat) (change : String) : String :=
  if count = 0 then "" else ", " ++ toString count ++ " " ++ change

/-- The line about a locale. -/
def localeLine (l : LocaleReport) : String :=
  "  " ++ l.path.text ++ " (" ++ countText l.total "key" "keys" ++ changeText l.added "added" ++
    changeText l.filled "filled" ++ changeText l.removed "removed" ++ ")"

/-- The lines of the summary. -/
def summaryLines (r : Report) (verbose : Bool) : List String :=
  r.headline :: (r.warningLines verbose ++
    ["template: " ++ r.templatePath.text, "message map: " ++ r.messageMapPath.text,
      "file map: " ++ r.fileMapPath.text, "locales:"] ++ r.locales.map localeLine)

/-- The summary, each line ended. -/
def summary (r : Report) (verbose : Bool) : String := String.join ((r.summaryLines verbose).map (· ++ "\n"))

end Report

end Phrasebook
