import ScriptStyle.Command.Arguments

/-!
# What is said about the use of the program
-/

namespace ScriptStyle.Command

/-- The name of the program with its version. -/
def versionText : Text := "jsstyle 0.1.0\n".toList

/-- What the program does. -/
def about : String :=
  "Checks JavaScript sources against configurable style conventions.\n\n" ++
  "Usage: jsstyle [OPTIONS] [PATH]...\n\n"

/-- What the option for settings does. -/
def configHelp : String :=
  "Configuration file (`.yaml`, `.yml` or `.json`). Without it, `jsstyle.yaml`, `jsstyle.yml` or " ++
  "`jsstyle.json` in the working directory is used, falling back to the recommended settings\n"

/-- The short help. -/
def shortHelp : Text := (about ++
  "Arguments:\n" ++
  "  [PATH]...  Files or directories to lint. Directories are searched recursively [default: .]\n" ++
  "\n" ++
  "Options:\n" ++
  "      --config <FILE>        " ++ configHelp ++
  "      --output <OUTPUT>      Controls how diagnostics are rendered [default: auto] " ++
  "[possible values: auto, human, json]\n" ++
  "      --log-filter <FILTER>  Tracing filter directive for log output on stderr " ++
  "[default: warn]\n" ++
  "      --log-format <FORMAT>  Log record format: `compact` or `json` [default: compact]\n" ++
  "  -h, --help                 Print help (see more with '--help')\n" ++
  "  -V, --version              Print version\n").toList

/-- The long help. -/
def longHelp : Text := (about ++
  "Arguments:\n" ++
  "  [PATH]...\n" ++
  "          Files or directories to lint. Directories are searched recursively\n" ++
  "          \n" ++
  "          [default: .]\n" ++
  "\n" ++
  "Options:\n" ++
  "      --config <FILE>\n" ++
  "          " ++ configHelp ++
  "\n" ++
  "      --output <OUTPUT>\n" ++
  "          Controls how diagnostics are rendered\n" ++
  "\n" ++
  "          Possible values:\n" ++
  "          - auto:  Selects `human` for terminal output and `json` for redirected output\n" ++
  "          - human: Always render one diagnostic per line\n" ++
  "          - json:  Always emit a JSON document\n" ++
  "          \n" ++
  "          [default: auto]\n" ++
  "\n" ++
  "      --log-filter <FILTER>\n" ++
  "          Tracing filter directive for log output on stderr\n" ++
  "          \n" ++
  "          [default: warn]\n" ++
  "\n" ++
  "      --log-format <FORMAT>\n" ++
  "          Log record format: `compact` or `json`\n" ++
  "          \n" ++
  "          [default: compact]\n" ++
  "\n" ++
  "  -h, --help\n" ++
  "          Print help (see a summary with '-h')\n" ++
  "\n" ++
  "  -V, --version\n" ++
  "          Print version\n").toList

namespace UsageError

/-- The line with the choices for a value, if there are any. -/
def choicesLine (choices : List OutputFormat) : Text :=
  if choices.isEmpty then []
  else
    "  [possible values: ".toList ++
      ", ".toList.intercalate (choices.map (·.word.toList)) ++ "]\n".toList

/-- The use of the program, with what was given so far or in general. -/
def usageLine (given : List Text) : Text :=
  let parts := if given.isEmpty then ["[OPTIONS]".toList, Progress.pathsUsage.toList] else given
  "Usage: jsstyle ".toList ++ [' '].intercalate parts ++ ['\n']

/-- The last line. -/
def hint : Text := "\nFor more information, try '--help'.\n".toList

/-- A text in single quotes. -/
def quote (t : Text) : Text := '\'' :: t ++ ['\'']

/-- What is said about an error. -/
def render (e : UsageError) : Text :=
  "error: ".toList ++ match e with
  | missingValue what choices =>
    "a value is required for ".toList ++ quote what.toList ++ " but none was supplied\n".toList ++
      choicesLine choices ++ hint
  | unknownChoice value what =>
    let tip := match Similarity.best? value (OutputFormat.all.map (·.word.toList)) with
      | some word => "\n  tip: a similar value exists: ".toList ++ quote word ++ ['\n']
      | none => []
    "invalid value ".toList ++ quote value ++ " for ".toList ++ quote what.toList ++ ['\n'] ++
      choicesLine OutputFormat.all ++ tip ++ hint
  | badValue value what reason =>
    "invalid value ".toList ++ quote value ++ " for ".toList ++ quote what.toList ++
      ": ".toList ++ reason ++ ['\n'] ++ hint
  | repeated what =>
    "the argument ".toList ++ quote what.toList ++ " cannot be used multiple times\n\n".toList ++
      usageLine [] ++ hint
  | unknown argument similar given =>
    let tip := match similar with
      | some a => "a similar argument exists: ".toList ++ quote a
      | none =>
        "to pass ".toList ++ quote argument ++ " as a value, use ".toList ++
          quote ("-- ".toList ++ argument)
    "unexpected argument ".toList ++ quote argument ++ " found\n\n  tip: ".toList ++ tip ++
      "\n\n".toList ++ usageLine given ++ hint
  | superfluousValue value what given =>
    "unexpected value ".toList ++ quote value ++ " for ".toList ++ quote what ++
      " found; no more were expected\n\n".toList ++ usageLine given ++ hint

end UsageError

end ScriptStyle.Command
