import Phrasebook.Catalogue.Basic
import Phrasebook.CommandLine.Arguments
import Phrasebook.CommandLine.Commands
import Phrasebook.CommandLine.Help
import Phrasebook.CommandLine.Summary
import Phrasebook.Context.Basic
import Phrasebook.Context.Message
import Phrasebook.Dictionary.Merge
import Phrasebook.Dictionary.Order
import Phrasebook.Failure
import Phrasebook.Files.Changes
import Phrasebook.Files.Discover
import Phrasebook.Files.Expand
import Phrasebook.Files.Glob
import Phrasebook.Files.Path
import Phrasebook.Files.Tree
import Phrasebook.Json.Basic
import Phrasebook.Json.Numeral
import Phrasebook.Json.Reader
import Phrasebook.Json.Tree
import Phrasebook.Json.Writer
import Phrasebook.Main
import Phrasebook.Message.Descriptor
import Phrasebook.Message.DescriptorJson
import Phrasebook.Message.Error
import Phrasebook.Message.Format
import Phrasebook.Message.Plural
import Phrasebook.Message.Reader
import Phrasebook.Message.Tree
import Phrasebook.Message.Value
import Phrasebook.Message.VariablesJson
import Phrasebook.Number.Basic
import Phrasebook.Number.Grouped
import Phrasebook.Number.Plain
import Phrasebook.Number.Reader
import Phrasebook.Number.Shortest
import Phrasebook.OrderedMap
import Phrasebook.Project.Artifacts
import Phrasebook.Project.Config
import Phrasebook.Project.ConfigReader
import Phrasebook.Project.Extract
import Phrasebook.Project.Load
import Phrasebook.Project.Locales
import Phrasebook.Project.Work
import Phrasebook.Regex.Basic
import Phrasebook.Regex.Brackets
import Phrasebook.Regex.Count
import Phrasebook.Regex.Escape
import Phrasebook.Regex.GroupStart
import Phrasebook.Regex.Match
import Phrasebook.Regex.Meaning
import Phrasebook.Regex.Plan
import Phrasebook.Regex.PropertyName
import Phrasebook.Regex.Reader
import Phrasebook.Regex.Search
import Phrasebook.Regex.Seen
import Phrasebook.Regex.Simplify
import Phrasebook.Regex.Size
import Phrasebook.Regex.Size.Basic
import Phrasebook.Regex.Size.Set
import Phrasebook.Regex.Size.Texts
import Phrasebook.Regex.Spacing
import Phrasebook.Regex.Written
import Phrasebook.Source.Descriptor
import Phrasebook.Source.Error
import Phrasebook.Source.Literal
import Phrasebook.Source.Rule
import Phrasebook.Source.Scan
import Phrasebook.Template.Basic
import Phrasebook.Template.Normalize
import Phrasebook.Template.Recover
import Phrasebook.Text.Basic
import Phrasebook.Text.CamelCase
import Phrasebook.Text.Quoted
import Phrasebook.Text.Read
import Phrasebook.Text.Utf8
import Phrasebook.Unicode.Age
import Phrasebook.Unicode.Alphabetic
import Phrasebook.Unicode.Blank
import Phrasebook.Unicode.Break
import Phrasebook.Unicode.ByteRanges
import Phrasebook.Unicode.CaseMap
import Phrasebook.Unicode.Category
import Phrasebook.Unicode.Folding
import Phrasebook.Unicode.LetterCase
import Phrasebook.Unicode.Numeric
import Phrasebook.Unicode.Printable
import Phrasebook.Unicode.Property
import Phrasebook.Unicode.PropertyList
import Phrasebook.Unicode.Ranges
import Phrasebook.Unicode.Script
import Phrasebook.Unicode.Word
import Phrasebook.Warning
import Phrasebook.Proofs.Text.FirstOccurrence
import Phrasebook.Proofs.Template.Recovery
import Phrasebook.Proofs.Message.PlainText
import Phrasebook.Proofs.Message.Grammar
import Phrasebook.Proofs.Message.Tokens
import Phrasebook.Proofs.Message.Heads
import Phrasebook.Proofs.Message.Reading
import Phrasebook.Proofs.Template.Pieces
import Phrasebook.Proofs.Catalogue.Gaps
import Phrasebook.Proofs.Context.Filling
import Phrasebook.Proofs.Context.RoundTrip
import Phrasebook.Proofs.Context.References
import Phrasebook.Proofs.Context.Verbatim
import Phrasebook.Proofs.Message.Places
import Phrasebook.Proofs.Message.Rendering
import Phrasebook.Proofs.Message.Substitution
import Phrasebook.Proofs.Number.Plain
import Phrasebook.Proofs.Context.FormatFirst
import Phrasebook.Proofs.Dictionary.Maps
import Phrasebook.Proofs.Dictionary.Order
import Phrasebook.Proofs.Dictionary.Merge
import Phrasebook.Proofs.Context.Resolution
import Phrasebook.Proofs.Context.Unguarded
import Phrasebook.Proofs.Json.Strings
import Phrasebook.Proofs.Json.Numerals
import Phrasebook.Proofs.Json.RoundTrip
import Phrasebook.Proofs.Files.Growth
import Phrasebook.Proofs.Files.Following
import Phrasebook.Proofs.Files.Paths
import Phrasebook.Proofs.Files.Writing
import Phrasebook.Proofs.Files.Expansion
import Phrasebook.Proofs.Files.Discovery
import Phrasebook.Proofs.Dictionary.Repetition
import Phrasebook.Proofs.Project.Work
import Phrasebook.Proofs.Project.WriteAll
import Phrasebook.Proofs.Project.Extraction
import Phrasebook.Proofs.Project.Repetition
import Phrasebook.Proofs.Message.Trees
import Phrasebook.Proofs.Number.Numerals
import Phrasebook.Proofs.Context.Isolation
import Phrasebook.Proofs.Text.Unread
import Phrasebook.Proofs.Message.Faults
import Phrasebook.Proofs.Message.Failures
import Phrasebook.Proofs.Message.PlainFront
import Phrasebook.Proofs.Message.Writing
import Phrasebook.Proofs.Context.Gaps
import Phrasebook.Proofs.Source.Collecting
import Phrasebook.Proofs.Source.TwoViews
import Phrasebook.Proofs.Project.Refusal
import Phrasebook.Proofs.Files.Siblings
import Phrasebook.Proofs.Project.Preservation
import Phrasebook.Proofs.Context.MergedLocales
import Phrasebook.Proofs.Source.Descriptors
import Phrasebook.Proofs.Files.Exactness
import Phrasebook.Proofs.Project.LocaleFiles
import Phrasebook.Proofs.Project.Configuration
import Phrasebook.Proofs.Template.Splitting
import Phrasebook.Proofs.Context.Replacing
import Phrasebook.Proofs.Context.Fallback
import Phrasebook.Proofs.Dictionary.KeySequence
import Phrasebook.Proofs.Dictionary.Counting
import Phrasebook.Proofs.Message.NumberSigns
import Phrasebook.Proofs.Unicode.CaseImages
import Phrasebook.Proofs.Text.CamelCase
import Phrasebook.Proofs.Text.Spellings
import Phrasebook.Proofs.Text.Joining
import Phrasebook.Proofs.Context.ReferencedIds
import Phrasebook.Proofs.Message.Braces
import Phrasebook.Proofs.Message.Names
import Phrasebook.Proofs.Message.NormalizedNames
import Phrasebook.Proofs.Text.Splitting
import Phrasebook.Proofs.Regex.Places
import Phrasebook.Proofs.Source.Positions
import Phrasebook.Proofs.Source.DefaultMessages
import Phrasebook.Proofs.Regex.Ends
import Phrasebook.Proofs.Regex.Numbering
import Phrasebook.Proofs.Regex.Choices
import Phrasebook.Proofs.Regex.FirstMatch
import Phrasebook.Proofs.Regex.EndsInText
import Phrasebook.Proofs.Regex.Footprint
import Phrasebook.Proofs.Source.StandardRules
import Phrasebook.Proofs.Source.ShortCalls
import Phrasebook.Proofs.Source.TagsAndErrors
import Phrasebook.Proofs.Source.JoinedCalls
import Phrasebook.Proofs.Message.NamesInUse
import Phrasebook.Proofs.Source.PropertyNames
import Phrasebook.Proofs.Template.Letters
import Phrasebook.Proofs.Source.DescriptorsInJson
import Phrasebook.Proofs.Number.Nearest
import Phrasebook.Proofs.Number.Thousandths
import Phrasebook.Proofs.Number.Grouping
import Phrasebook.Proofs.Message.Positions
import Phrasebook.Proofs.Source.Boundaries
import Phrasebook.Proofs.Files.Climbing
import Phrasebook.Proofs.Project.Search
