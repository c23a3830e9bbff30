import ScriptStyle.Text.Basic

/-!
# Diagnostics

A diagnostic says which check found what, and in which line of which source. Checks that look at
statements count lines from one, checks that look at lines and tokens count them from zero; a
diagnostic keeps the number as its check counted it and remembers how that was.

Line numbers fit into 64 bits. Moving to a count from one stops at the greatest of them.
-/

namespace ScriptStyle

/-- How serious a diagnostic is. -/
inductive Severity where
  | warning | error
deriving DecidableEq, Repr

namespace Severity

/-- The word in front of a diagnostic. -/
def word : Severity → String
  | warning => "Warning"
  | error => "Error"

/-- The name of a severity in files. -/
def name : Severity → String
  | warning => "warning"
  | error => "error"

/-- All of them. -/
def all : List Severity := [warning, error]

end Severity

/-- The number that the first line has. -/
inductive LineBase where
  | one | zero
deriving DecidableEq, Repr

namespace LineBase

/-- The greatest number of a line. -/
def lineLimit : Nat := UInt64.size - 1

/-- A line in this count as a line counted from one. -/
def toOneBased (b : LineBase) (line : Nat) : Nat :=
  match b with
  | one => line
  | zero => min (line + 1) lineLimit

/-- The name of a count in files. -/
def name : LineBase → String
  | one => "one_based"
  | zero => "zero_based"

/-- All of them. -/
def all : List LineBase := [one, zero]

end LineBase

/-- The checks. -/
inductive Check where
  | missingSemicolons | emptyLines | spacesStyle | correctNaming
deriving DecidableEq, Repr

namespace Check

/-- All checks in the order in which they run. -/
def all : List Check := [missingSemicolons, emptyLines, spacesStyle, correctNaming]

/-- The name of a check in reports and in settings. -/
def name : Check → String
  | missingSemicolons => "missing_semicolons"
  | emptyLines => "empty_lines"
  | spacesStyle => "spaces_style"
  | correctNaming => "correct_naming"

/-- The name of a check in the description of a linter. -/
def title : Check → String
  | missingSemicolons => "MissingSemicolons"
  | emptyLines => "EmptyLines"
  | spacesStyle => "SpacesStyle"
  | correctNaming => "CorrectNaming"

/-- How a check counts lines. -/
def lineBase : Check → LineBase
  | missingSemicolons => .one
  | emptyLines => .zero
  | spacesStyle => .zero
  | correctNaming => .one

end Check

/-- What a check has to say about a line. -/
structure Diagnostic where
  /-- How serious it is. -/
  severity : Severity
  /-- The check that says so. -/
  check : Check
  /-- What it says. -/
  message : Text
  /-- The label of the source. -/
  filename : Text
  /-- The line, counted as the check does. -/
  line : Nat
  /-- How the line was counted. -/
  lineBase : LineBase
deriving DecidableEq, Repr

namespace Diagnostic

/-- A warning in the line count of its check. -/
def warning (check : Check) (message filename : Text) (line : Nat) : Diagnostic :=
  ⟨.warning, check, message, filename, line, check.lineBase⟩

/-- The line counted from one. -/
def oneBasedLine (d : Diagnostic) : Nat := d.lineBase.toOneBased d.line

/-- The diagnostic as one line of text, without a line feed. -/
def render (d : Diagnostic) : Text :=
  d.severity.word.toList ++ ": ".toList ++ d.filename ++ " line ".toList ++
    (Nat.toDigits 10 d.line) ++ ": ".toList ++ d.message

end Diagnostic

end ScriptStyle
