import ScriptStyle.Json.Typed
import ScriptStyle.Settings.Schema

/-!
# Settings in JSON

Settings are written with all their names, a missing pattern as null. They are read from any subset
of the names: what is not given has its default.
-/

namespace ScriptStyle.Settings

open Json (Value)

/-- The switches of the checks as a value. -/
def checkersValue (t : CheckerToggles) : Value := .object [
  ("all".toList, .bool t.all),
  ("missing_semicolons".toList, .bool t.missingSemicolons),
  ("empty_lines".toList, .bool t.emptyLines),
  ("spaces_style".toList, .bool t.spacesStyle),
  ("correct_naming".toList, .bool t.correctNaming)]

/-- The lists of operators as a value. -/
def spacesValue (s : SpacesStyle) : Value := .object [
  ("before".toList, .array (s.before.map .text)),
  ("no-before".toList, .array (s.noBefore.map .text)),
  ("after".toList, .array (s.after.map .text)),
  ("no-after".toList, .array (s.noAfter.map .text))]

/-- The patterns of names as a value. -/
def namingValue (p : NamingPatterns) : Value := .object [
  ("js-variable-pattern".toList, .ofOption .text p.variableNames),
  ("js-const-variable-pattern".toList, .ofOption .text p.constantNames),
  ("js-function-pattern".toList, .ofOption .text p.functionNames),
  ("js-class-pattern".toList, .ofOption .text p.classNames)]

/-- The settings as a value. -/
def value (s : Settings) : Value := .object [
  ("checkers".toList, checkersValue s.checkers),
  ("max-code-line-without-empty-lines".toList, .number s.maxCodeLines),
  ("spaces-style".toList, spacesValue s.spacesStyle),
  ("naming-patterns".toList, namingValue s.namingPatterns)]

/-- The value of a slot. -/
def readSlot {σ : Type} (slot : Slot σ) (i : Json.Input) :
    Except Json.Error ((σ → σ) × Json.Input) :=
  match slot with
  | .flag set => i.bool.map fun (b, j) => (set b, j)
  | .texts set => i.texts.map fun (ts, j) => (set ts, j)
  | .text set => i.optionalText.map fun (t, j) => (set t, j)

/-- The value of a part. -/
def readPart (part : Part) (i : Json.Input) :
    Except Json.Error ((Settings → Settings) × Json.Input) :=
  match part with
  | .checkers => (i.record readSlot "CheckerToggles" checkerSlots {}).map fun (v, j) =>
    (fun s => { s with checkers := v }, j)
  | .maxCodeLines => i.natural.map fun (v, j) => (fun s => { s with maxCodeLines := v }, j)
  | .spacesStyle => (i.record readSlot "SpacesStyle" spacesSlots {}).map fun (v, j) =>
    (fun s => { s with spacesStyle := v }, j)
  | .namingPatterns => (i.record readSlot "NamingPatterns" namingSlots {}).map fun (v, j) =>
    (fun s => { s with namingPatterns := v }, j)

/-- The settings that a text holds. -/
def ofJson (t : Text) : Except Json.Error Settings := do
  let (s, i) ← (Json.Input.ofText t).record readPart "LintConfig" parts Settings.default
  i.finish
  return s

end ScriptStyle.Settings
