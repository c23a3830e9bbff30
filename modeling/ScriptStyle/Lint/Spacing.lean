import ScriptStyle.Source.Model
import ScriptStyle.Settings.Basic
import ScriptStyle.Lint.Diagnostic

/-!
# Spaces around operators

A rule says of an operator that a space has to stand on one side of it, or must not. Rules are
sorted by side and then by the length of the operator, and an operator token is reported for the
first of its rules that is broken. A neighbour that is not in the line of the token breaks no rule.
-/

namespace ScriptStyle

/-- Where a rule looks and what it wants there. -/
inductive Side where
  /-- A space before the operator. -/
  | before
  /-- No space before the operator. -/
  | noBefore
  /-- A space after the operator. -/
  | after
  /-- No space after the operator. -/
  | noAfter
deriving DecidableEq, Repr

namespace Side

/-- All sides in the order of the rules. -/
def all : List Side := [before, noBefore, after, noAfter]

/-- The name of a side. -/
def name : Side → String
  | before => "Before"
  | noBefore => "NoBefore"
  | after => "After"
  | noAfter => "NoAfter"

/-- The rule looks at what stands before the operator. -/
def looksBefore : Side → Bool
  | before | noBefore => true
  | after | noAfter => false

/-- The rule wants a space. -/
def wantsSpace : Side → Bool
  | before | after => true
  | noBefore | noAfter => false

/-- What is said about an operator for which the rule is broken. -/
def message (s : Side) (operator : Text) : Text :=
  match s with
  | before => "Add space before ".toList ++ operator ++ " operator".toList
  | noBefore => "Remove space before ".toList ++ operator
  | after => "Add space after ".toList ++ operator ++ " operator".toList
  | noAfter => "Remove space after ".toList ++ operator

/-- The operators that the settings list for a side. -/
def operators (s : Side) (style : SpacesStyle) : List Text :=
  match s with
  | before => style.before
  | noBefore => style.noBefore
  | after => style.after
  | noAfter => style.noAfter

end Side

/-- What one side of an operator has to look like. -/
structure SpacingRule where
  /-- The operator. -/
  operator : Text
  /-- The side and what it wants. -/
  side : Side
deriving DecidableEq, Repr

namespace Spacing

/-- The byte of a space. -/
def space : UInt8 := 32

/-- The rules in the order in which they are tried. -/
def rules (style : SpacesStyle) : List SpacingRule :=
  Side.all.flatMap fun side =>
    ((side.operators style).mergeSort fun a b => b.byteSize ≤ a.byteSize).map (⟨·, side⟩)

/-- The byte before a token in its line. -/
def byteBefore? (m : Model) (t : Token) : Option UInt8 :=
  let p := t.span.start
  if p.column = 0 then none else m.byteAt? ⟨p.line, p.column - 1⟩

/-- The byte after a token in its line. -/
def byteAfter? (m : Model) (t : Token) : Option UInt8 := m.byteAt? t.span.stop

/-- The neighbour of a token on the side that a rule looks at. -/
def neighbour? (m : Model) (t : Token) (side : Side) : Option UInt8 :=
  if side.looksBefore then byteBefore? m t else byteAfter? m t

/-- There is a neighbour, and it is not as the side wants it. -/
def isBroken (side : Side) (neighbour : Option UInt8) : Bool :=
  neighbour.any fun b => (b == space) != side.wantsSpace

/-- The first rule for a token that is broken. -/
def firstBroken? (m : Model) (rules : List SpacingRule) (t : Token) : Option SpacingRule :=
  rules.find? fun r => r.operator = t.value && isBroken r.side (neighbour? m t r.side)

/-- The warning about a token, if one is due. -/
def warning? (m : Model) (rules : List SpacingRule) (t : Token) : Option Diagnostic :=
  if t.kind.isOperatorLike then
    (firstBroken? m rules t).map fun r =>
      .warning .spacesStyle (r.side.message r.operator) m.filename t.span.start.lineIndex
  else none

/-- The warnings about a source, in the order of its tokens. -/
def check (rules : List SpacingRule) (m : Model) : List Diagnostic :=
  m.tokens.filterMap (warning? m rules)

end Spacing

end ScriptStyle
