import Phrasebook.CommandLine.Arguments

/-!
# Help

What is told to someone who asks how to call the program, or who called it in a way that it does not understand.
-/

namespace Phrasebook

namespace CommandLine

/-- The version of the program. -/
def version : String := "phrasebook 0.1.0"

/-- The commands and what they take. -/
def helpLines : List String := [
  "Usage: phrasebook <command> [options] < names",
  "",
  "The names of the project's files are read from the standard input, one a line.",
  "",
  "Commands:",
  "  extract            update the locale files from the messages in the source files",
  "  format <id>        print a message",
  "  parse <id> <text>  recover the values from which a message was formatted",
  "  init               create a configuration file",
  "",
  "Options of extract, format and parse:",
  "  --path <directory>             where the search for the configuration begins",
  "  --locales-dir <directory>      the directory of the locale files",
  "  --default-language <language>  the language of the default messages",
  "  -v, --verbose                  tell more",
  "",
  "Options of extract:",
  "  --source-dir <directory>  where to look for source files; may be repeated",
  "  --output-dir <directory>  where the artifacts are written",
  "  --locale <locale>         a locale to update; may be repeated",
  "  --fallback <locale>       the locale whose messages fill gaps",
  "  --sort-by <order>         the order of messages: keys, source or none",
  "",
  "Options of format:",
  "  --values <object>         the values of the message's variables",
  "  --locale <locale>         the locale of the message",
  "  --fallback <text>         stands for a message that cannot be formatted",
  "  --default-message <text>  stands for a message that is in no locale file",
  "",
  "Options of parse:",
  "  --locale <locale>  the locale of the text"]

/-- The help, each line ended. -/
def help : String := String.join (helpLines.map (· ++ "\n"))

namespace UsageError

/-- Is the error a wish to be shown something? -/
def isRequest : UsageError → Bool
  | .helpWanted => true
  | .versionWanted => true
  | _ => false

/-- What is shown for an error. -/
def message : UsageError → String
  | .unknownArgument => "error: an argument is not known\n"
  | .unknownCommand => "error: the command is not known\n"
  | .invalidValue => "error: an option has no value\n"
  | .repeated => "error: an option is given twice\n"
  | .unwantedValue => "error: an option takes no value\n"
  | .missingArgument => "error: an argument is missing\n"
  | .helpWanted => help
  | .versionWanted => version ++ "\n"

/-- The exit code of a program that ends with an error. -/
def exitCode (e : UsageError) : Nat := if e.isRequest then 0 else 2

end UsageError

end CommandLine

end Phrasebook
