import ScriptStyle.Text.Basic

/-!
# YAML nodes

A document is read into a node. A scalar keeps its text and how it was written, because only a plain
scalar can stand for nothing at all. Aliases have been replaced by what they refer to.
-/

namespace ScriptStyle.Yaml

/-- How a scalar was written. -/
inductive Style where
  | plain | quoted | block
deriving DecidableEq, Repr

/-- A part of a document. -/
inductive Node where
  /-- A text with the tag in front of it. -/
  | scalar (style : Style) (tag : Text) (value : Text)
  | sequence (items : List Node)
  | mapping (members : List (Node × Node))

namespace Node

/-- What stands where nothing is written. -/
def nothing : Node := scalar .plain [] []

/-- A scalar with a tag in front of it. -/
def withTag (tag : Text) : Node → Node
  | scalar style _ value => scalar style tag value
  | n => n

/-- The text of a scalar. -/
def text? : Node → Option Text
  | scalar _ _ value => some value
  | _ => none

/-- A plain scalar that stands for nothing. -/
def isNull : Node → Bool
  | scalar .plain _ value =>
    value.isEmpty || value = ['~'] || value.map (·.toLower) = ['n', 'u', 'l', 'l']
  | _ => false

end Node

end ScriptStyle.Yaml
