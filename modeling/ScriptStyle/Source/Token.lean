import ScriptStyle.Text.Basic
import ScriptStyle.Text.Position

/-!
# Tokens

A token is a piece of source text with the class that the grammar gives it. Rules about operators
apply to punctuators and keywords only: the characters of every other token belong to names and
literals.
-/

namespace ScriptStyle

/-- The classes of tokens. -/
inductive TokenKind where
  | punctuator | keyword | identifier | numeric | string | template | regularExpression | comment
deriving DecidableEq, Repr

namespace TokenKind

/-- All classes, in the order of their declaration. -/
def all : List TokenKind :=
  [punctuator, keyword, identifier, numeric, string, template, regularExpression, comment]

/-- The name of a class in reports and files. -/
def name : TokenKind → String
  | punctuator => "punctuator"
  | keyword => "keyword"
  | identifier => "identifier"
  | numeric => "numeric"
  | string => "string"
  | template => "template"
  | regularExpression => "regular_expression"
  | comment => "comment"

/-- The class with a given name. -/
def ofName? (name : String) : Option TokenKind := all.find? (·.name = name)

/-- The tokens that rules about operators apply to. -/
def isOperatorLike (k : TokenKind) : Bool := k = punctuator || k = keyword

end TokenKind

/-- A piece of source text. -/
structure Token where
  /-- The characters of the token. -/
  value : Text
  /-- Its class. -/
  kind : TokenKind
  /-- Where it stands. -/
  span : Span
deriving DecidableEq, Repr

end ScriptStyle
