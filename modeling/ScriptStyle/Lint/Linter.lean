import ScriptStyle.Lint.Semicolons
import ScriptStyle.Lint.EmptyLines
import ScriptStyle.Lint.Spacing
import ScriptStyle.Lint.Naming

/-!
# The linter

A checker is a check together with what it needs of the settings. A linter is a list of checkers and
runs one after the other over the same source. The linter of some settings has a checker for each
check that is on; building it fails only if the check of names is on and one of its patterns cannot
be read.
-/

namespace ScriptStyle

/-- A check with what it looks for. -/
inductive Checker where
  | semicolons
  | emptyLines (width : Nat)
  | spacing (rules : List SpacingRule)
  | naming (rules : NameRules)

namespace Checker

/-- The check that a checker carries out. -/
def id : Checker → Check
  | semicolons => .missingSemicolons
  | emptyLines _ => .emptyLines
  | spacing _ => .spacesStyle
  | naming _ => .correctNaming

/-- The warnings about a source. -/
def check : Checker → Model → List Diagnostic
  | semicolons => Semicolons.check
  | emptyLines width => EmptyLines.check width
  | spacing rules => Spacing.check rules
  | naming rules => Naming.check rules

/-- The checker of empty lines without any settings. -/
def defaultEmptyLines : Checker := emptyLines Settings.defaultMaxCodeLines

/-- The checker for a check under some settings. -/
def build (s : Settings) : Check → Except PatternError Checker
  | .missingSemicolons => .ok semicolons
  | .emptyLines => .ok (emptyLines s.maxCodeLines)
  | .spacesStyle => .ok (spacing (Spacing.rules s.spacesStyle))
  | .correctNaming => (NameRules.ofSettings s.namingPatterns).map naming

end Checker

/-- Checkers in the order in which they run. -/
structure Linter where
  /-- The checkers. -/
  checkers : List Checker

namespace Linter

/-- The linter of some settings. -/
def ofSettings (s : Settings) : Except PatternError Linter :=
  (s.enabled.mapM (Checker.build s)).map (⟨·⟩)

/-- The checks of a linter in the order in which they run. -/
def enabled (l : Linter) : List Check := l.checkers.map (·.id)

/-- All warnings about a source. -/
def lint (l : Linter) (m : Model) : List Diagnostic := l.checkers.flatMap (·.check m)

/-- The list of the checks of a linter. -/
def titles (l : Linter) : String := "[" ++ ", ".intercalate (l.enabled.map (·.title)) ++ "]"

/-- A description of a linter. -/
def describe (l : Linter) : String := "Linter \x7b enabled: " ++ l.titles ++ " \x7d"

end Linter

/-- All warnings about a source under some settings. -/
def Model.lint (m : Model) (s : Settings) : Except PatternError (List Diagnostic) :=
  (Linter.ofSettings s).map (·.lint m)

end ScriptStyle
