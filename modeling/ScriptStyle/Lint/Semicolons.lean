import ScriptStyle.Source.Model
import ScriptStyle.Lint.Diagnostic

/-!
# Missing semicolons

A statement without a body has to end with a semicolon. Statements with a body are passed through:
what stands in the body is looked at, the statement itself is not. A statement whose last byte is
not in the text is given the benefit of the doubt.
-/

namespace ScriptStyle.Semicolons

/-- What is said about a statement without its semicolon. -/
def message : Text := "Missing semicolon".toList

/-- The byte of a semicolon. -/
def semicolon : UInt8 := 59

/-- The last byte of a stretch of text. -/
def lastByte? (m : Model) (s : Span) : Option UInt8 :=
  if s.stop.column = 0 then none else m.byteAt? ⟨s.stop.line, s.stop.column - 1⟩

/-- The statement has no body and ends with something else than a semicolon. -/
def isMissing (m : Model) : Statement → Bool
  | .simple _ s => (lastByte? m s).any (· != semicolon)
  | .compound _ _ _ => false

/-- The warnings about a source, in the order of its statements. -/
def check (m : Model) : List Diagnostic :=
  ((Statement.preorderAll m.program).filter (isMissing m)).map fun s =>
    .warning .missingSemicolons message m.filename s.span.start.line

end ScriptStyle.Semicolons
