import Mathlib.Data.List.Basic
import ScriptStyle.Lint.Linter

/-!
# Labels

What a checker finds in a source are messages with their lines, and nothing of this depends on what
the source is called (`Checker.check_withFilename`): the label is only put on every warning, next to
the check and its count of lines.
-/

namespace ScriptStyle

/-! ## What checkers find -/

variable (m : Model) (f : Text)

/-- The messages about missing semicolons with their lines. -/
def Semicolons.findings : List (Text × Nat) :=
  ((Statement.preorderAll m.program).filter (isMissing m)).map fun s =>
    (message, s.span.start.line)

theorem Semicolons.check_withFilename : check (m.withFilename f) =
    (findings m).map fun x => .warning .missingSemicolons x.1 f x.2 := by
  rw [findings, List.map_map]
  rfl

/-- The messages about empty lines with their lines. -/
def EmptyLines.findings (width : Nat) : List (Text × Nat) :=
  (doubled (flags m)).map (extraMessage, ·) ++ (denseWindows width (flags m)).map (denseMessage, ·)

theorem EmptyLines.check_withFilename (width : Nat) : check width (m.withFilename f) =
    (findings m width).map fun x => .warning .emptyLines x.1 f x.2 := by
  rw [findings, List.map_append, List.map_map, List.map_map]
  rfl

/-- The messages about spaces with their lines. -/
def Spacing.findings (rules : List SpacingRule) : List (Text × Nat) :=
  m.tokens.filterMap fun t =>
    if t.kind.isOperatorLike then
      (firstBroken? m rules t).map fun r => (r.side.message r.operator, t.span.start.lineIndex)
    else none

theorem Spacing.check_withFilename (rules : List SpacingRule) : check rules (m.withFilename f) =
    (findings m rules).map fun x => .warning .spacesStyle x.1 f x.2 := by
  rw [findings, List.map_filterMap]
  refine List.filterMap_congr fun t _ => ?_
  have hbroken : firstBroken? (m.withFilename f) rules t = firstBroken? m rules t := rfl
  rw [warning?, hbroken]
  split
  · rw [Option.map_map]
    rfl
  · rfl

/-- The messages about names with their lines. -/
def Naming.findings (r : NameRules) : List (Text × Nat) :=
  (Statement.preorderAll m.program).flatMap fun s =>
    (messages r s).map (·, s.span.start.line)

theorem Naming.check_withFilename (r : NameRules) : check r (m.withFilename f) =
    (findings m r).map fun x => .warning .correctNaming x.1 f x.2 := by
  rw [findings, List.map_flatMap]
  refine List.flatMap_congr fun s _ => ?_
  rw [List.map_map]
  rfl

/-- The messages of a checker with their lines. -/
def Checker.findings : Checker → List (Text × Nat)
  | semicolons => Semicolons.findings m
  | emptyLines width => EmptyLines.findings m width
  | spacing rules => Spacing.findings m rules
  | naming rules => Naming.findings m rules

/-- The warnings of a checker are what it finds, under the label of the source. -/
theorem Checker.check_withFilename (c : Checker) : c.check (m.withFilename f) =
    (c.findings m).map fun x => .warning c.id x.1 f x.2 := by
  cases c with
  | semicolons => exact Semicolons.check_withFilename m f
  | emptyLines width => exact EmptyLines.check_withFilename m f width
  | spacing rules => exact Spacing.check_withFilename m f rules
  | naming rules => exact Naming.check_withFilename m f rules

theorem Checker.check_eq (c : Checker) : c.check m =
    (c.findings m).map fun x => .warning c.id x.1 m.filename x.2 :=
  c.check_withFilename m m.filename

/-! ## Another label -/

/-- The diagnostic under another label. -/
def Diagnostic.relabel (d : Diagnostic) : Diagnostic := { d with filename := f }

theorem Checker.check_relabel (c : Checker) :
    c.check (m.withFilename f) = (c.check m).map (·.relabel f) := by
  rw [check_withFilename, check_eq, List.map_map]
  rfl

/-- A source under another label has the same diagnostics, but for their label. Every diagnostic of
a checker is a warning with the label of the source, the check of the checker and the count of lines
that this check declares. -/
theorem lint_withFilename (l : Linter) :
    l.lint (m.withFilename f) = (l.lint m).map (·.relabel f) ∧
    ∀ (c : Checker), ∀ d ∈ c.check m, d.severity = .warning ∧ d.filename = m.filename ∧
      d.check = c.id ∧ d.lineBase = c.id.lineBase := by
  constructor
  · rw [Linter.lint, Linter.lint, List.map_flatMap]
    exact List.flatMap_congr fun c _ => c.check_relabel m f
  · intro c d hd
    rw [c.check_eq] at hd
    obtain ⟨x, -, rfl⟩ := List.mem_map.mp hd
    exact ⟨rfl, rfl, rfl, rfl⟩

/-- Two empty lines, the second of which is one too many. -/
def twoEmptyLines : Model where
  text := ['\n']
  program := []
  tokens := []
  filename := "a.js".toList

theorem lint_withFilename_twoEmptyLines :
    Linter.lint ⟨[.emptyLines 9]⟩ (twoEmptyLines.withFilename "b.js".toList) =
      [.warning .emptyLines EmptyLines.extraMessage "b.js".toList 1] ∧
    ∃ d ∈ (Checker.emptyLines 9).check twoEmptyLines, d.severity = .warning ∧
      d.filename = "a.js".toList ∧ d.check = .emptyLines ∧ d.lineBase = .zero := by
  obtain ⟨hlint, hcheck⟩ := lint_withFilename twoEmptyLines "b.js".toList ⟨[.emptyLines 9]⟩
  have hfound : .warning .emptyLines EmptyLines.extraMessage "a.js".toList 1 ∈
      (Checker.emptyLines 9).check twoEmptyLines := by decide
  exact ⟨hlint, _, hfound, hcheck (.emptyLines 9) _ hfound⟩

end ScriptStyle
