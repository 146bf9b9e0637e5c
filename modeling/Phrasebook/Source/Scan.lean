import Phrasebook.OrderedMap
import Phrasebook.Source.Descriptor
import Phrasebook.Source.Rule
import Phrasebook.Warning

/-!
# Scanning source text

Every rule is applied to every line by itself. What it finds is either an occurrence of a message or a descriptor that
cannot be read. The findings of all files are then seen in two ways, by message and by file, and the default messages of
descriptors are collected, of which the last for an id counts.
-/

namespace Phrasebook

open Regex (Match slice)

/-- Where and how a message is used. -/
structure Occurrence where
  /-- The file, the line from one on, and the number of characters before the match. -/
  position : String
  /-- The matched text; for a descriptor, up to its end. -/
  code : String
  /-- The names of the values, where the rule looks for them. -/
  keys : Option (List String)
  deriving DecidableEq, Repr

/-- An occurrence with its message and its place in the file. -/
structure FileOccurrence where
  id : String
  occurrence : Occurrence
  /-- From one on. -/
  line : Nat
  /-- In characters, from one on. -/
  column : Nat
  deriving DecidableEq, Repr

/-- What a match of a rule comes to. -/
inductive Finding where
  | message (found : FileOccurrence) (defaultMessage : Option String)
  | unreadable (position code : String) (cause : DescriptorError)
  deriving DecidableEq, Repr

/-- What was found in all files. -/
structure ScanResult where
  messages : OrderedMap (List Occurrence)
  files : OrderedMap (List FileOccurrence)
  defaultMessages : OrderedMap String
  filesScanned : Nat
  parseFailures : Nat

namespace Finding

/-- The occurrence of a message. -/
def occurrence? : Finding → Option FileOccurrence
  | .message found _ => some found
  | .unreadable .. => none

/-- The default message with its id. -/
def defaultMessage? : Finding → Option (String × String)
  | .message found defaultMessage => defaultMessage.map fun text => (found.id, text)
  | .unreadable .. => none

/-- The warning about a descriptor that cannot be read. -/
def warning? : Finding → Option Warning
  | .message .. => none
  | .unreadable position code cause => some (.unreadableDescriptor position code cause)

end Finding

namespace Scan

/-- A place in a file. -/
def positionText (file : String) (line before : Nat) : String :=
  file ++ ":" ++ toString line ++ ":" ++ toString before

/-- The occurrence of a message at a match whose code ends at `stop`. -/
def occurrenceAt (file : String) (number : Nat) (line : List Char) (m : Match) (id : String) (stop : Nat) :
    FileOccurrence where
  id := id
  occurrence := {
    position := positionText file number m.start
    code := String.ofList (slice line m.start stop)
    keys := (m.group? 2 line).map fun source => (propertyNames source).map String.ofList }
  line := number
  column := m.start + 1

/-- What a match of a rule in a line comes to. A match whose first group took no part, or is an empty id, comes to
nothing. -/
def findingOf? (file : String) (number : Nat) (line : List Char) (kind : CaptureKind) (m : Match) : Option Finding :=
  match m.span? 1 with
  | none => none
  | some (start, stop) =>
    let capture := slice line start stop
    match kind with
    | .id =>
      if capture.isEmpty then none
      else some (.message (occurrenceAt file number line m (String.ofList capture) m.stop) none)
    | .descriptor =>
      match Descriptor.read (String.ofList capture) with
      | .ok d => some (.message (occurrenceAt file number line m d.id stop) d.defaultMessage)
      | .error cause =>
        some (.unreadable (positionText file number m.start) (String.ofList (m.text line)) cause)

/-- The lines of a text, without the carriage return at their end. -/
def linesOf (content : String) : List (List Char) :=
  (Text.splitAt '\n' content.toList).map fun line => if line.getLast? = some '\r' then line.dropLast else line

/-- What one rule finds in a line. -/
def findingsOfRule (file : String) (number : Nat) (line : List Char) (rule : Rule) : List Finding :=
  (rule.matcher.matchesIn line).filterMap (findingOf? file number line rule.kind)

/-- What the rules find in a line, rule by rule. -/
def findingsInLine (rules : List Rule) (file : String) (number : Nat) (line : List Char) : List Finding :=
  rules.flatMap (findingsOfRule file number line)

/-- What the rules find in a text, line by line. -/
def findings (rules : List Rule) (file content : String) : List Finding :=
  (linesOf content).zipIdx.flatMap fun (line, index) => findingsInLine rules file (index + 1) line

/-- Does the first occurrence not stand after the second? -/
def precedes (a b : FileOccurrence) : Bool := a.line < b.line || a.line == b.line && a.column ≤ b.column

/-- Nothing found. -/
def empty : ScanResult := ⟨.empty, .empty, .empty, 0, 0⟩

/-- An occurrence under its message. -/
def addMessage (messages : OrderedMap (List Occurrence)) (found : FileOccurrence) : OrderedMap (List Occurrence) :=
  messages.upsert found.id [] (· ++ [found.occurrence])

/-- The result with the findings of one more file. -/
def addFile (result : ScanResult) (file : String) (found : List Finding) : ScanResult :=
  let occurrences := found.filterMap Finding.occurrence?
  { messages := occurrences.foldl addMessage result.messages
    files :=
      if occurrences.isEmpty then result.files
      else result.files.upsert file [] (· ++ occurrences.mergeSort precedes)
    defaultMessages :=
      (found.filterMap Finding.defaultMessage?).foldl (fun m (id, text) => m.insert id text) result.defaultMessages
    filesScanned := result.filesScanned + 1
    parseFailures := result.parseFailures + (found.filterMap Finding.warning?).length }

/-- The result after scanning one more text. -/
def scanText (rules : List Rule) (result : ScanResult) (file content : String) : Logged ScanResult :=
  let found := findings rules file content
  ⟨addFile result file found, found.filterMap Finding.warning?⟩

/-- The result of scanning named texts. -/
def scanTexts (rules : List Rule) (texts : List (String × String)) : Logged ScanResult :=
  texts.foldlM (fun result (file, content) => scanText rules result file content) empty

end Scan

end Phrasebook
