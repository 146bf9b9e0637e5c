/-!
# Arguments

The arguments of the command line: a command, then its options and texts in any order. An option takes the next
argument or what follows an equals sign; after `--` everything is a text. An option is settled when the next one
begins, so that a fault in it is told before a later one, unless the later one is an argument that does not exist.
-/

namespace Phrasebook

namespace CommandLine

/-- Why arguments are not understood, or what is shown instead of running a command. -/
inductive UsageError where
  | unknownArgument
  | unknownCommand
  /-- A value is missing, or empty where that makes no sense. -/
  | invalidValue
  /-- An option is given twice that may be given once. -/
  | repeated
  /-- A value is given to an option that takes none. -/
  | unwantedValue
  | missingArgument
  | helpWanted
  | versionWanted
  deriving DecidableEq, Repr

/-- Options that all commands but one have. -/
structure CommonOptions where
  path : Option String
  localesDir : Option String
  defaultLanguage : Option String
  verbose : Bool
  deriving DecidableEq, Repr

/-- A command with its options. -/
inductive Command where
  | extract (common : CommonOptions) (sourceDirs : List String) (outputDir : Option String) (locales : List String)
      (fallback sortBy : Option String)
  | format (common : CommonOptions) (id : String) (values locale fallback defaultMessage : Option String)
  | parse (common : CommonOptions) (id text : String) (locale : Option String)
  | init
  deriving DecidableEq, Repr

/-! ## What a command takes -/

/-- What the arguments of a command may be. -/
structure Grammar where
  /-- Options that take a value and may be given once. -/
  single : List String
  /-- Options that take a value and may be given again. -/
  multiple : List String
  /-- May the output be verbose? -/
  hasVerbose : Bool
  /-- How many texts there are besides options. -/
  texts : Nat

/-- The options that commands share. -/
def commonNames : List String := ["path", "locales-dir", "default-language"]

/-- What an extraction takes. -/
def extractGrammar : Grammar :=
  ⟨commonNames ++ ["output-dir", "fallback", "sort-by"], ["source-dir", "locale"], true, 0⟩

/-- What formatting takes. -/
def formatGrammar : Grammar := ⟨commonNames ++ ["values", "locale", "fallback", "default-message"], [], true, 1⟩

/-- What recovering values takes. -/
def parseGrammar : Grammar := ⟨commonNames ++ ["locale"], [], true, 2⟩

/-- Starting a project takes nothing. -/
def initGrammar : Grammar := ⟨[], [], false, 0⟩

/-! ## Reading arguments -/

/-- What was read so far. -/
structure Given where
  options : List (String × String)
  verbose : Bool
  texts : List String
  /-- An option that is not settled, with its value if that is there. -/
  pending : Option (String × Option String)
  /-- Are all further arguments texts? -/
  onlyTexts : Bool

namespace Given

/-- Nothing read. -/
def start : Given := ⟨[], false, [], none, false⟩

/-- The values of an option. -/
def valuesOf (g : Given) (name : String) : List String := (g.options.filter (·.1 == name)).map Prod.snd

/-- The value of an option, if it is given. -/
def valueOf? (g : Given) (name : String) : Option String := (g.valuesOf name).head?

/-- Settles an option with a value. -/
def settle (grammar : Grammar) (g : Given) (name value : String) : Except UsageError Given :=
  if grammar.single.contains name && (g.valueOf? name).isSome then .error .repeated
  else if name = "path" ∧ value = "" then .error .invalidValue
  else .ok { g with options := g.options ++ [(name, value)], pending := none }

/-- Settles the option that is not settled yet. -/
def settlePending (grammar : Grammar) (g : Given) : Except UsageError Given :=
  match g.pending with
  | none => .ok g
  | some (_, none) => .error .invalidValue
  | some (name, some value) => g.settle grammar name value

/-- Makes the output verbose. -/
def setVerbose (grammar : Grammar) (g : Given) : Except UsageError Given := do
  let g ← g.settlePending grammar
  if g.verbose then .error .repeated else return { g with verbose := true }

/-- Shows the help. -/
def showHelp (grammar : Grammar) (g : Given) : Except UsageError Given := do
  let _ ← g.settlePending grammar
  .error .helpWanted

/-- Reads an argument that begins with two hyphens, given as a name and perhaps a value. -/
def readLong (grammar : Grammar) (g : Given) (name : String) (value : Option String) : Except UsageError Given :=
  if grammar.single.contains name || grammar.multiple.contains name then do
    let g ← g.settlePending grammar
    match value with
    | some value => g.settle grammar name value
    | none => return { g with pending := some (name, none) }
  else if name = "help" then if value.isSome then .error .unwantedValue else g.showHelp grammar
  else if name = "verbose" ∧ grammar.hasVerbose then
    if value.isSome then .error .unwantedValue else g.setVerbose grammar
  else .error .unknownArgument

/-- Reads letters after one hyphen. -/
def readShort (grammar : Grammar) (g : Given) : List Char → Except UsageError Given
  | [] => .ok g
  | c :: rest =>
    if c = 'h' then g.showHelp grammar
    else if c = 'v' ∧ grammar.hasVerbose then do
      let g ← g.setVerbose grammar
      g.readShort grammar rest
    else .error .unknownArgument

/-- Reads a text, if the command takes one more. -/
def readText (grammar : Grammar) (g : Given) (text : String) : Except UsageError Given :=
  if g.texts.length < grammar.texts then do
    let g ← g.settlePending grammar
    return { g with texts := g.texts ++ [text] }
  else .error .unknownArgument

/-- Reads an argument that is the value of an option or a text. -/
def readPlain (grammar : Grammar) (g : Given) (arg : String) : Except UsageError Given :=
  match g.pending with
  | some (name, none) => .ok { g with pending := some (name, some arg) }
  | _ => g.readText grammar arg

/-- The name and the value of an argument after its hyphens. -/
def splitLong (s : List Char) : String × Option String :=
  let name := String.ofList (s.takeWhile (· != '='))
  match s.dropWhile (· != '=') with
  | [] => (name, none)
  | _ :: value => (name, some (String.ofList value))

/-- Reads an argument. -/
def readArgument (grammar : Grammar) (g : Given) (arg : String) : Except UsageError Given :=
  if g.onlyTexts then g.readText grammar arg
  else match arg.toList with
    | ['-', '-'] => .ok { g with onlyTexts := true }
    | '-' :: '-' :: s => g.readLong grammar (splitLong s).1 (splitLong s).2
    | '-' :: c :: s => g.readShort grammar (c :: s)
    | _ => g.readPlain grammar arg

/-- Reads the arguments of a command. -/
def readAll (grammar : Grammar) (args : List String) : Except UsageError Given := do
  let g ← args.foldlM (readArgument grammar) start
  g.settlePending grammar

end Given

/-! ## Commands -/

/-- The common options. The directory of the project may also be given by the environment. -/
def commonOf (g : Given) (projectDir : Option String) : Except UsageError CommonOptions :=
  match g.valueOf? "path" <|> projectDir with
  | some "" => .error .invalidValue
  | path => .ok ⟨path, g.valueOf? "locales-dir", g.valueOf? "default-language", g.verbose⟩

/-- Reads the arguments of an extraction. -/
def readExtract (args : List String) (projectDir : Option String) : Except UsageError Command := do
  let g ← Given.readAll extractGrammar args
  let common ← commonOf g projectDir
  return .extract common (g.valuesOf "source-dir") (g.valueOf? "output-dir") (g.valuesOf "locale")
    (g.valueOf? "fallback") (g.valueOf? "sort-by")

/-- Reads the arguments of formatting. -/
def readFormat (args : List String) (projectDir : Option String) : Except UsageError Command := do
  let g ← Given.readAll formatGrammar args
  let common ← commonOf g projectDir
  match g.texts with
  | [id] =>
    return .format common id (g.valueOf? "values") (g.valueOf? "locale") (g.valueOf? "fallback")
      (g.valueOf? "default-message")
  | _ => .error .missingArgument

/-- Reads the arguments of recovering values. -/
def readParse (args : List String) (projectDir : Option String) : Except UsageError Command := do
  let g ← Given.readAll parseGrammar args
  let common ← commonOf g projectDir
  match g.texts with
  | [id, text] => return .parse common id text (g.valueOf? "locale")
  | _ => .error .missingArgument

/-- Reads the arguments of starting a project. -/
def readInit (args : List String) : Except UsageError Command := do
  let _ ← Given.readAll initGrammar args
  return .init

/-- The names of the commands. -/
def commandNames : List String := ["extract", "format", "parse", "init", "help"]

/-- What is shown for a request for help about commands. -/
def helpFor : List String → UsageError
  | [] => .helpWanted
  | [name] => if commandNames.contains name then .helpWanted else .unknownCommand
  | _ => .unknownCommand

/-- What letters after one hyphen ask for before any command. -/
def topLevelShort (c : Char) : UsageError :=
  if c = 'h' then .helpWanted else if c = 'V' then .versionWanted else .unknownArgument

/-- What a name after two hyphens asks for before any command. -/
def topLevelLong (name : String) (value : Option String) : UsageError :=
  if name = "help" ∨ name = "version" then
    if value.isSome then .unwantedValue else if name = "help" then .helpWanted else .versionWanted
  else .unknownArgument

/-- What an argument that names no command comes to. -/
def notACommand (arg : String) : UsageError :=
  match arg.toList with
  | '-' :: '-' :: s => topLevelLong (Given.splitLong s).1 (Given.splitLong s).2
  | '-' :: c :: _ => topLevelShort c
  | _ => .unknownCommand

/-- The command of the arguments; without any, no command. `projectDir` is the project's directory as the environment
gives it. -/
def read (args : List String) (projectDir : Option String) : Except UsageError (Option Command) :=
  match args with
  | [] => .ok none
  | "extract" :: rest => some <$> readExtract rest projectDir
  | "format" :: rest => some <$> readFormat rest projectDir
  | "parse" :: rest => some <$> readParse rest projectDir
  | "init" :: rest => some <$> readInit rest
  | "help" :: rest => .error (helpFor rest)
  | ["--"] => .ok none
  | "--" :: name :: _ => .error (if commandNames.contains name then .unknownArgument else .unknownCommand)
  | arg :: _ => .error (notACommand arg)

end CommandLine

end Phrasebook
