import CallableLookup.CommandLine.Arguments
import CallableLookup.Lookup.File
import CallableLookup.Settings.Discovery

/-!
# Running the program

What the program prints: about wrong arguments, and as its answer.
-/

namespace CallableLookup.CommandLine

/-!
## Messages of the command line

How the program is called, and what it prints about wrong arguments.
-/

/-- What follows the word `Usage`. -/
def UsageLine.text : UsageLine → String
  | general => "fnscope [OPTIONS] <FILE> <NAME>"
  | .with given =>
    String.intercalate " "
      (["fnscope"] ++ (given.filter (!·.isPositional)).map Parameter.label ++ ["<FILE>", "<NAME>"])

/-- The values to choose from, where a parameter has some. -/
def Parameter.possibleValues : Parameter → String
  | format => "\n  [possible values: text, json]"
  | _ => ""

/-- The hint on a similar word, if there is one. -/
def similarHint (kind : String) : Option String → String
  | some word => "\n\n  tip: a similar " ++ kind ++ " exists: '" ++ word ++ "'"
  | none => ""

/-- The paragraph on how to call the program. -/
def usageParagraph (u : UsageLine) : String :=
  "\n\nUsage: " ++ u.text

/-- What is wrong, with hints and the usage line. -/
def ArgumentError.body : ArgumentError → String
  | unexpected argument similar escapable usage =>
    "unexpected argument '" ++ argument ++ "' found" ++ similarHint "argument" similar ++
      (if escapable then
        "\n\n  tip: to pass '" ++ argument ++ "' as a value, use '-- " ++ argument ++ "'"
       else "") ++ usageParagraph usage
  | invalidFormat value =>
    "invalid value '" ++ value ++ "' for '" ++ Parameter.format.label ++ "'" ++
      Parameter.format.possibleValues ++
      similarHint "value" ((OutputFormat.known.map (·.1)).find? (Text.isSimilar value))
  | missingValue parameter =>
    "a value is required for '" ++ parameter.label ++ "' but none was supplied" ++
      parameter.possibleValues
  | repeated parameter =>
    "the argument '" ++ parameter.label ++ "' cannot be used multiple times" ++
      usageParagraph .general
  | missing parameters usage =>
    "the following required arguments were not provided:" ++
      String.join (parameters.map fun p => "\n  " ++ p.label) ++ usageParagraph usage
  | needlessValue value parameter usage =>
    "unexpected value '" ++ value ++ "' for '" ++ parameter.label ++
      "' found; no more were expected" ++ usageParagraph usage

/-- What is printed about wrong arguments. -/
def ArgumentError.message (e : ArgumentError) : String :=
  "error: " ++ e.body ++ "\n\nFor more information, try '--help'.\n"

/-- What is printed when help is asked for. -/
def helpText : String :=
  "Print the source of a named function in a TypeScript or JavaScript file\n\n" ++
  "Usage: fnscope [OPTIONS] <FILE> <NAME>\n\n" ++
  "Arguments:\n" ++
  "  <FILE>  Path to the TypeScript or JavaScript file\n" ++
  "  <NAME>  Name of the function, method, or function-valued property\n\n" ++
  "Options:\n" ++
  "      --format <FORMAT>  Output format [default: text] [possible values: text, json]\n" ++
  "      --config <CONFIG>  Path to a config file (default: discovered from the file's " ++
  "directory)\n" ++
  "  -h, --help             Print help\n" ++
  "  -V, --version          Print version\n"

/-- What is printed when the version is asked for. -/
def versionText : String := "fnscope 0.1.0\n"

/-!
## Runs

What the program prints and how it ends, for a tree of files and arguments.
-/

/-- The end of a run. -/
structure Outcome where
  exitCode : Nat
  stdout : String
  stderr : String
deriving Repr, DecidableEq

namespace Outcome

/-- A run that prints something and succeeds. -/
def printed (text : String) : Outcome := ⟨0, text, ""⟩

/-- A run that fails with a message. -/
def failed (message : String) : Outcome := ⟨1, "", "Error: " ++ message ++ "\n"⟩

end Outcome

/-- The directory in which the search for settings starts. -/
def settingsDirectory (file : String) : String :=
  match Path.parent? file with
  | some dir => if dir.isEmpty then "." else dir
  | none => "."

/-- Print an answer in a format. -/
def report (format : OutputFormat) (e : Extraction) : Outcome :=
  match format with
  | .text => if e.found then .printed (e.text ++ "\n") else .failed e.text
  | .json => ⟨if e.found then 0 else 1, e.json ++ "\n", ""⟩

/-- Run a lookup. -/
def lookup (t : FileTree) (r : LookupRequest) : Outcome :=
  if !t.isFile r.file then .failed ("File does not exist: " ++ r.file)
  else
    match t.activeSettings (settingsDirectory r.file) r.config with
    | .error cause => .failed ("failed to load configuration: " ++ cause.message)
    | .ok active => report r.format (t.extract r.file r.name active.settings)

/-- Run the program. -/
def run (t : FileTree) (arguments : List String) : Outcome :=
  match parse arguments with
  | .error e => ⟨1, "", e.message⟩
  | .ok .help => .printed helpText
  | .ok .version => .printed versionText
  | .ok (.lookup request) => lookup t request

end CallableLookup.CommandLine
