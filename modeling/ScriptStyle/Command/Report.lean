import ScriptStyle.Command.Arguments
import ScriptStyle.Files.Disk
import ScriptStyle.Lint.Json
import ScriptStyle.Source.Read

/-!
# Reports on files

Each file that was looked at has a report: its diagnostics, or why there are none. Diagnostics are
printed as lines or as one JSON document; failures are always printed as lines of their own, apart
from the diagnostics.
-/

namespace ScriptStyle.Command

namespace OutputFormat

/-- A format with the choice between lines and JSON made: lines for a terminal. -/
def resolve (f : OutputFormat) (terminal : Bool) : OutputFormat :=
  match f with
  | auto => if terminal then human else json
  | f => f

end OutputFormat

/-- Why a file has no diagnostics. -/
inductive FileError where
  | unreadable (error : ReadError)
  | malformed (error : SyntaxError)
deriving DecidableEq, Repr

namespace FileError

/-- What failed. -/
def label : FileError → String
  | unreadable _ => "Reading error"
  | malformed _ => "Parsing error"

/-- What is said about it. -/
def message : FileError → Text
  | unreadable e => "failed to read file: ".toList ++ e.message
  | malformed e => e.render

end FileError

/-- What came of a file. -/
structure FileReport where
  /-- What the file is called. -/
  label : Text
  /-- Its diagnostics, or why there are none. -/
  outcome : Except FileError (List Diagnostic)

namespace FileReport

/-- The diagnostics of a file. -/
def diagnostics (r : FileReport) : List Diagnostic :=
  match r.outcome with
  | .ok ds => ds
  | .error _ => []

/-- The file has no diagnostics because something failed. -/
def isFailure (r : FileReport) : Bool :=
  match r.outcome with
  | .ok _ => false
  | .error _ => true

/-- The line about a failure, if there is one. -/
def failureLine (r : FileReport) : Text :=
  match r.outcome with
  | .ok _ => []
  | .error e => e.label.toList ++ ": ".toList ++ r.label ++ ": ".toList ++ e.message ++ ['\n']

/-- The report as an object. -/
def value (r : FileReport) : Json.Value :=
  .object [
    ("file".toList, .text r.label),
    ("diagnostics".toList, .array (r.diagnostics.map (·.value)))]

end FileReport

/-- The totals of some reports. -/
structure Summary where
  /-- The number of diagnostics. -/
  diagnostics : Nat
  /-- The number of files that failed. -/
  failures : Nat
deriving DecidableEq, Repr

namespace Summary

/-- The totals of some reports. -/
def ofReports (rs : List FileReport) : Summary where
  diagnostics := (rs.flatMap (·.diagnostics)).length
  failures := (rs.filter (·.isFailure)).length

/-- Nothing was found and nothing failed. -/
def isClean (s : Summary) : Bool := s.diagnostics = 0 && s.failures = 0

/-- The status with which the program ends. -/
def exitCode (s : Summary) : Nat := if s.isClean then 0 else 1

end Summary

/-- What is printed if nothing was found and nothing failed. -/
def cleanMessage : Text := "No linting errors found!\n".toList

/-- The lines about failures. -/
def renderFailures (rs : List FileReport) : Text := rs.flatMap (·.failureLine)

/-- Diagnostics as lines. -/
def renderLines (rs : List FileReport) : Text :=
  (rs.flatMap (·.diagnostics)).flatMap (fun d => d.render ++ ['\n']) ++
    if (Summary.ofReports rs).isClean then cleanMessage else []

/-- Diagnostics as a JSON document. -/
def renderJson (rs : List FileReport) : Text :=
  Json.indented 0 (.array ((rs.filter (!·.isFailure)).map (·.value))) ++ ['\n']

/-- Diagnostics in a format. -/
def render (f : OutputFormat) (terminal : Bool) (rs : List FileReport) : Text :=
  match f.resolve terminal with
  | .json => renderJson rs
  | _ => renderLines rs

end ScriptStyle.Command
