import ScriptStyle.Text.Basic
import ScriptStyle.Lint.Diagnostic

/-!
# Settings

Settings switch the checks on and say what they look for. A setting that is not given has a default:
no check is on, no operator is listed, names follow no pattern. The recommended settings are those
of a program that was given none at all.
-/

namespace ScriptStyle

/-- Which checks are on. -/
structure CheckerToggles where
  /-- All of them, whatever the other switches say. -/
  all : Bool := false
  missingSemicolons : Bool := false
  emptyLines : Bool := false
  spacesStyle : Bool := false
  correctNaming : Bool := false
deriving DecidableEq, Repr

namespace CheckerToggles

/-- A check is on. -/
def isOn (t : CheckerToggles) : Check → Bool
  | .missingSemicolons => t.all || t.missingSemicolons
  | .emptyLines => t.all || t.emptyLines
  | .spacesStyle => t.all || t.spacesStyle
  | .correctNaming => t.all || t.correctNaming

end CheckerToggles

/-- The operators that rules about spaces exist for. -/
structure SpacesStyle where
  /-- Operators with a space before them. -/
  before : List Text := []
  /-- Operators without a space before them. -/
  noBefore : List Text := []
  /-- Operators with a space after them. -/
  after : List Text := []
  /-- Operators without a space after them. -/
  noAfter : List Text := []
deriving DecidableEq, Repr

namespace SpacesStyle

/-- No operator is listed at all. -/
def isEmpty (s : SpacesStyle) : Bool :=
  s.before.isEmpty && s.noBefore.isEmpty && s.after.isEmpty && s.noAfter.isEmpty

end SpacesStyle

/-- The patterns that names have to match, as they were written. -/
structure NamingPatterns where
  /-- For variables. -/
  variableNames : Option Text := none
  /-- For constants. -/
  constantNames : Option Text := none
  /-- For functions. -/
  functionNames : Option Text := none
  /-- For classes. -/
  classNames : Option Text := none
deriving DecidableEq, Repr

/-- Everything that can be set. -/
structure Settings where
  /-- Which checks are on. -/
  checkers : CheckerToggles
  /-- How many lines of code may stand together without an empty line. -/
  maxCodeLines : Nat
  /-- The rules about spaces. -/
  spacesStyle : SpacesStyle
  /-- The rules about names. -/
  namingPatterns : NamingPatterns
deriving DecidableEq, Repr

namespace Settings

/-- How many lines of code may stand together if nothing else is said. -/
def defaultMaxCodeLines : Nat := 9

/-- Nothing but defaults. -/
def default : Settings := ⟨{}, defaultMaxCodeLines, {}, {}⟩

/-- All checks, the most common operators, and the usual case for names. -/
def recommended : Settings where
  checkers := ⟨true, true, true, true, true⟩
  maxCodeLines := defaultMaxCodeLines
  spacesStyle :=
    ⟨["+".toList, "-".toList], ["==".toList, "!=".toList], ["=".toList, ":".toList], [",".toList]⟩
  namingPatterns :=
    ⟨some "^[a-z][a-zA-Z0-9]*$".toList, some "^[A-Z_]+$".toList,
      some "^[a-z][a-zA-Z0-9]*$".toList, some "^[A-Z][a-zA-Z0-9]*$".toList⟩

/-- The checks that are on, in the order in which they run. -/
def enabled (s : Settings) : List Check := Check.all.filter s.checkers.isOn

end Settings

end ScriptStyle
