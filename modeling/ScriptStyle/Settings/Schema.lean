import ScriptStyle.Settings.Basic

/-!
# The names of settings

Settings are written down under names, in sections. A section is a list of named slots, and a slot
says what kind of value it takes and where the value goes. Both file formats read the same slots.
-/

namespace ScriptStyle.Settings

/-- A setting by the kind of its value. -/
inductive Slot (σ : Type) where
  /-- A switch. -/
  | flag (set : Bool → σ → σ)
  /-- A list of texts. -/
  | texts (set : List Text → σ → σ)
  /-- A text that may be missing. -/
  | text (set : Option Text → σ → σ)

/-- The switches of the checks. -/
def checkerSlots : List (String × Slot CheckerToggles) := [
  ("all", .flag fun b s => { s with all := b }),
  ("missing_semicolons", .flag fun b s => { s with missingSemicolons := b }),
  ("empty_lines", .flag fun b s => { s with emptyLines := b }),
  ("spaces_style", .flag fun b s => { s with spacesStyle := b }),
  ("correct_naming", .flag fun b s => { s with correctNaming := b })]

/-- The lists of operators. -/
def spacesSlots : List (String × Slot SpacesStyle) := [
  ("before", .texts fun ts s => { s with before := ts }),
  ("no-before", .texts fun ts s => { s with noBefore := ts }),
  ("after", .texts fun ts s => { s with after := ts }),
  ("no-after", .texts fun ts s => { s with noAfter := ts })]

/-- The patterns of names. -/
def namingSlots : List (String × Slot NamingPatterns) := [
  ("js-variable-pattern", .text fun t s => { s with variableNames := t }),
  ("js-const-variable-pattern", .text fun t s => { s with constantNames := t }),
  ("js-function-pattern", .text fun t s => { s with functionNames := t }),
  ("js-class-pattern", .text fun t s => { s with classNames := t })]

/-- The parts of the settings. -/
inductive Part where
  | checkers | maxCodeLines | spacesStyle | namingPatterns
deriving DecidableEq, Repr

/-- The parts by their names. -/
def parts : List (String × Part) := [
  ("checkers", .checkers),
  ("max-code-line-without-empty-lines", .maxCodeLines),
  ("spaces-style", .spacesStyle),
  ("naming-patterns", .namingPatterns)]

end ScriptStyle.Settings
