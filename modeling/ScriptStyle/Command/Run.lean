import ScriptStyle.Command.Log
import ScriptStyle.Command.Report
import ScriptStyle.Command.Usage
import ScriptStyle.Files.Collect
import ScriptStyle.Lint.Linter
import ScriptStyle.Settings.File

/-!
# A run of the program

A run first prepares: it finds its settings, builds the linter and gathers the files. Whatever fails
there ends the run with status 2 and nothing printed but the reason. Then every file is looked at,
and a file that fails does not keep the others from being reported.
-/

namespace ScriptStyle.Command

/-- Where settings come from. -/
inductive SettingsOrigin where
  /-- A file that was asked for. -/
  | given (path : Text)
  /-- A file in the working directory. -/
  | found (path : Text)
  /-- No file at all. -/
  | recommended
deriving DecidableEq, Repr

/-- Why a run could not begin. -/
inductive RunError where
  | usage (error : UsageError)
  | log (error : LogFilterError)
  | settings (error : SettingsError)
  | pattern (error : PatternError)
  | missingPath (path : Text)

namespace RunError

/-- What is said about it. -/
def message : RunError → Text
  | usage e => e.render
  | log e => "failed to initialise logging: invalid log filter: ".toList ++ e.message
  | settings e => e.message
  | pattern e => e.message
  | missingPath p => "path '".toList ++ p ++ "' does not exist".toList

/-- The status with which the program ends. -/
def exitCode : Nat := 2

end RunError

/-- What surrounds a run. -/
structure Console where
  /-- Findings are printed to a terminal. -/
  terminal : Bool
  /-- The run keeps a log. If it does not, nobody looks at the filter either. -/
  logging : Bool

/-- What a run needs. -/
structure Job where
  /-- The linter. -/
  linter : Linter
  /-- The files to look at. -/
  files : List Text

/-- The beginning of a run. -/
structure Preparation where
  /-- What was logged. -/
  log : List LogRecord
  /-- What the run needs, or why it cannot begin. -/
  job : Except RunError Job

/-- What a run leaves behind. -/
structure Output where
  /-- The status with which the program ends. -/
  exitCode : Nat
  /-- What is printed. -/
  stdout : Text := []
  /-- What is printed about failures. -/
  stderr : Text := []
  /-- What was logged. -/
  log : List LogRecord := []
  /-- How the log is printed. -/
  logFormat : LogFormat := .compact

namespace LogRecord

/-- The part of the program that talks to its user. -/
def commandTarget : String := "jsstyle::cli"

/-- The part of the program that checks sources. -/
def lintTarget : String := "jsstyle::lint"

/-- Where settings come from. -/
def ofOrigin : SettingsOrigin → LogRecord
  | .given p => ⟨.debug, commandTarget, "loading configuration", [("path", .text p)]⟩
  | .found p => ⟨.debug, commandTarget, "loading discovered configuration", [("path", .text p)]⟩
  | .recommended =>
    ⟨.debug, commandTarget, "no configuration file; using recommended settings", []⟩

/-- The linter is built. -/
def ofLinter (l : Linter) : LogRecord :=
  ⟨.debug, lintTarget, "linter ready", [("enabled", .text l.titles.toList)]⟩

/-- Files were gathered. -/
def ofFiles (n : Nat) : List LogRecord :=
  [⟨.debug, commandTarget, "collected files", [("count", .number n)]⟩,
    ⟨.info, commandTarget, "linting", [("files", .number n)]⟩]

/-- All files were looked at. -/
def ofSummary (s : Summary) : LogRecord :=
  ⟨.info, commandTarget, "lint finished",
    [("diagnostics", .number s.diagnostics), ("failures", .number s.failures)]⟩

end LogRecord

variable {m : Type → Type} [Monad m]

namespace SettingsOrigin

/-- The settings. -/
def settings (disk : Disk m) : SettingsOrigin → m (Except SettingsError Settings)
  | given p => Settings.load disk p
  | found p => Settings.load disk p
  | recommended => return .ok Settings.recommended

end SettingsOrigin

namespace Options

/-- The paths to look at. -/
def searched (o : Options) : List Text := if o.paths.isEmpty then [['.']] else o.paths

/-- The file that was asked for, or else one in the working directory, or else none. -/
def origin (disk : Disk m) (o : Options) : m SettingsOrigin := do
  match o.config with
  | some p => return .given p
  | none =>
    match ← Settings.discover disk (← disk.workingDirectory) with
    | some p => return .found p
    | none => return .recommended

/-- Settings, linter and files. -/
def prepare (disk : Disk m) (o : Options) : m Preparation := do
  let origin ← o.origin disk
  let first := LogRecord.ofOrigin origin
  match ← origin.settings disk with
  | .error e => return ⟨[first], .error (.settings e)⟩
  | .ok s =>
    match Linter.ofSettings s with
    | .error e => return ⟨[first], .error (.pattern e)⟩
    | .ok linter =>
      match ← Files.collect disk o.searched with
      | .error p => return ⟨[first, .ofLinter linter], .error (.missingPath p)⟩
      | .ok files =>
        return ⟨first :: .ofLinter linter :: LogRecord.ofFiles files.length, .ok ⟨linter, files⟩⟩

end Options

/-- What becomes of a file. -/
def lintFile (disk : Disk m) (linter : Linter) (path : Text) : m FileReport := do
  match ← disk.read path with
  | .error e => return ⟨path, .error (.unreadable e)⟩
  | .ok text =>
    match Model.ofText text path with
    | .error e => return ⟨path, .error (.malformed e)⟩
    | .ok model => return ⟨path, .ok (linter.lint model)⟩

/-- What becomes of all files. -/
def Job.reports (disk : Disk m) (j : Job) : m (List FileReport) :=
  j.files.mapM (lintFile disk j.linter)

namespace Output

/-- The output of a run that could not begin. -/
def ofError (e : RunError) (log : List LogRecord) : Output where
  exitCode := RunError.exitCode
  stderr := e.message ++ ['\n']
  log := log

/-- The output of a run that looked at files. -/
def ofReports (o : Options) (terminal : Bool) (log : List LogRecord) (rs : List FileReport) :
    Output where
  exitCode := (Summary.ofReports rs).exitCode
  stdout := render (o.output.getD .auto) terminal rs
  stderr := renderFailures rs
  log := log ++ [.ofSummary (Summary.ofReports rs)]

/-- The output with a log that has passed a filter. -/
def filtered (f : LogFilter) (format : LogFormat) (out : Output) : Output :=
  { out with log := out.log.filter f.admits, logFormat := format }

end Output

/-- A run with everything logged. -/
def Options.lint (disk : Disk m) (terminal : Bool) (o : Options) : m Output := do
  let start ← o.prepare disk
  match start.job with
  | .error e => return .ofError e start.log
  | .ok job => return .ofReports o terminal start.log (← job.reports disk)

/-- A run. -/
def Options.run (disk : Disk m) (console : Console) (o : Options) : m Output := do
  if console.logging then
    match LogFilter.ofText (o.logFilter.getD defaultLogFilter) with
    | .error e => return .ofError (.log e) []
    | .ok f => return (← o.lint disk console.terminal).filtered f (o.logFormat.getD .compact)
  else return { ← o.lint disk console.terminal with log := [] }

/-- What the program does when it is given some arguments. -/
def run (disk : Disk m) (console : Console) (arguments : List Text) : m Output := do
  match Request.ofArguments arguments with
  | .error e => return .ofError (.usage e) []
  | .ok .shortHelp => return { exitCode := 0, stdout := shortHelp }
  | .ok .longHelp => return { exitCode := 0, stdout := longHelp }
  | .ok .version => return { exitCode := 0, stdout := versionText }
  | .ok (.lint o) => o.run disk console

end ScriptStyle.Command
