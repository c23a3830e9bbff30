import ScriptStyle.Syntax.Grammar.Statement

/-!
# Reading a whole text

`Grammar.upTo` ties the knot of the grammar: a reading of depth `n + 1` may use the reading of
depth `n` for the constructs inside. Every such step either consumes a character or narrows the
goal, so a depth proportional to the length of the text is as good as no bound.
-/

namespace ScriptStyle

open Rule

namespace Grammar

/-- The rule for a goal over a reading of the goals inside. -/
def rule (g : Grammar) : Goal → Rule
  | .statement alone => g.statement alone
  | .block operand => g.block operand
  | .expression tail level => g.expression tail level
  | .object => g.object
  | .construction tail => g.construction tail
  | .markup => g.markupElement

/-- The reading that nests goals at most `n` deep. -/
def upTo : Nat → Grammar
  | 0 => fun _ => fail
  | n + 1 => fun goal => pick fun _ => (upTo n).rule goal

/-- As many statements as there are at the beginning of a text. -/
def statements (g : Grammar) : Rule :=
  optional (past .plain >> lexeme .comment Lexeme.interpreterLine) >>
    many (past .plain >> g (.statement false))

/-- Statements up to the end of the text. -/
def program (g : Grammar) : Rule := g.statements >> past .plain >> check (·.rest.isEmpty)

end Grammar

namespace Tree

/-- The depth to which a text of this length can nest goals. -/
def depthFor (length : Nat) : Nat := 4 * length + 16

/-- The tree of a text without damage. -/
def parse? (text : List Char) : Option Tree :=
  match ((Grammar.upTo (depthFor text.length)).program.run ⟨[], text⟩) with
  | some c => some (.node .program c.done.reverse)
  | none => none

end Tree

end ScriptStyle
