import ScriptStyle.Syntax.Repair
import ScriptStyle.Source.Model
import ScriptStyle.Source.Tokens
import ScriptStyle.Source.Outline

/-!
# From a text to a model

Only an undamaged tree gives a model. Of a damaged one the first damage is reported.
-/

namespace ScriptStyle

/-- Why a text has no model. -/
structure SyntaxError where
  /-- The label of the source. -/
  filename : Text
  /-- The line of the first damage, counted from one. -/
  line : Nat
  /-- Its column, counted from one. -/
  column : Nat
  /-- What is wrong there. -/
  message : Text
  /-- The characters there. -/
  context : Text
deriving DecidableEq, Repr

namespace SyntaxError

/-- The report of some damage. -/
def ofDamage (d : Damage) (filename : Text) : SyntaxError :=
  ⟨filename, d.line, d.column, d.message, d.context⟩

/-- What is said about the error. -/
def render (e : SyntaxError) : Text :=
  "syntax error at line ".toList ++ Nat.toDigits 10 e.line ++ ", column ".toList ++
    Nat.toDigits 10 e.column ++ ": ".toList ++ e.message ++ " near `".toList ++ e.context ++
    "`".toList

end SyntaxError

namespace Model

/-- The model of a tree that begins a text. -/
def ofTree (t : Tree) (filename : Text) : Model where
  text := t.text
  program := Tree.outlineAll .list .origin t.children
  tokens := t.tokens .origin
  filename := filename

/-- The model of a tree without damage. -/
def ofTree? (t : Tree) (filename : Text) : Except SyntaxError Model :=
  match t.damage with
  | [] => .ok (ofTree t filename)
  | d :: _ => .error (.ofDamage d filename)

/-- The model of a text. -/
def ofText (text filename : Text) : Except SyntaxError Model := ofTree? (Tree.ofText text) filename

end Model

end ScriptStyle
