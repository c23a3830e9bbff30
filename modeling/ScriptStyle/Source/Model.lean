import ScriptStyle.Source.Token
import ScriptStyle.Source.Statement

/-!
# Source models

A source model is what the checks see of a file: its text with the statements and tokens that were
read from it, under a label. Models can also be made by hand, and then nothing ties the statements
and tokens to the text; a check asks for the byte at a place and must cope with there being none.
-/

namespace ScriptStyle

/-- A source text together with its statements and tokens. -/
structure Model where
  /-- The source text. -/
  text : Text
  /-- The statements at the top. -/
  program : List Statement
  /-- The tokens in order. -/
  tokens : List Token
  /-- What reports call the source. -/
  filename : Text

namespace Model

/-- The label of a source without a name. -/
def noFilename : Text := "no_filename".toList

/-- The lines of the text. -/
def lines (m : Model) : List Text := m.text.lines

/-- The line with an index counted from zero. -/
def line? (m : Model) (index : Nat) : Option Text := m.lines[index]?

/-- The byte at a place, if the line is so long. No place on line zero has one. -/
def byteAt? (m : Model) (p : Position) : Option UInt8 :=
  if p.line = 0 then none else (m.line? (p.line - 1)).bind (·.byteAt? p.column)

/-- The same source under another label. -/
def withFilename (m : Model) (filename : Text) : Model := { m with filename }

end Model

end ScriptStyle
