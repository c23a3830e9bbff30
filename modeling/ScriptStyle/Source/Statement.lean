import ScriptStyle.Text.Basic
import ScriptStyle.Text.Position

/-!
# Statements

The checks look at statements and at nothing below them: at where a statement stands, at the names
that it declares, and at the statements in its body. A statement is therefore either simple or a
compound of a body, and a traversal of the bodies meets every statement.

The members of a class count as the body of the class, and the branches of a control statement as
one body.
-/

namespace ScriptStyle

/-- A name and where it is bound. -/
structure Identifier where
  /-- The characters of the name. -/
  name : Text
  /-- Where the name stands. -/
  span : Span
deriving DecidableEq, Repr

/-- The words that declare variables. -/
inductive DeclarationKind where
  | var | let_ | const
deriving DecidableEq, Repr

namespace DeclarationKind

/-- The word itself. -/
def word : DeclarationKind → String
  | var => "var"
  | let_ => "let"
  | const => "const"

end DeclarationKind

/-- The statements that decide which other statements run. -/
inductive ControlKind where
  | ifElse | for | forIn | while | doWhile | try | switch | with | labeled
deriving DecidableEq, Repr

namespace ControlKind

/-- All of them. -/
def all : List ControlKind :=
  [ifElse, «for», forIn, «while», doWhile, «try», switch, «with», labeled]

/-- The short name of such a statement. -/
def name : ControlKind → String
  | ifElse => "If"
  | .for => "For"
  | forIn => "ForIn"
  | .while => "While"
  | doWhile => "DoWhile"
  | .try => "Try"
  | switch => "Switch"
  | .with => "With"
  | labeled => "Labeled"

/-- The name of the type of such a statement. -/
def typeName (k : ControlKind) : String := k.name ++ "Statement"

end ControlKind

/-- What a statement without a body is. -/
inductive SimpleKind where
  /-- A declaration of variables with the names that it binds. -/
  | declaration (kind : DeclarationKind) (names : List Identifier)
  | field | expression | return | throw | break | continue | imports | exports | debugger | empty
  /-- A construct outside this list, under the name that the grammar has for it. -/
  | other (name : String)
deriving DecidableEq, Repr

namespace SimpleKind

/-- The name of the type of such a statement. -/
def typeName : SimpleKind → String
  | declaration _ _ => "VariableDeclaration"
  | field => "PropertyDefinition"
  | expression => "ExpressionStatement"
  | .return => "ReturnStatement"
  | .throw => "ThrowStatement"
  | .break => "BreakStatement"
  | .continue => "ContinueStatement"
  | imports => "ImportDeclaration"
  | exports => "ExportDeclaration"
  | debugger => "DebuggerStatement"
  | empty => "EmptyStatement"
  | other name => name

end SimpleKind

/-- What a statement with a body is. -/
inductive CompoundKind where
  | function (name : Option Identifier)
  | classBody (name : Option Identifier)
  | method | staticBlock | block
  | control (kind : ControlKind)
deriving DecidableEq, Repr

namespace CompoundKind

/-- The name of the type of such a statement. -/
def typeName : CompoundKind → String
  | function _ => "FunctionDeclaration"
  | classBody _ => "ClassDeclaration"
  | method => "MethodDefinition"
  | staticBlock => "StaticBlock"
  | block => "BlockStatement"
  | control kind => kind.typeName

end CompoundKind

/-- A statement and where it stands. -/
inductive Statement where
  /-- A statement without a body. -/
  | simple (kind : SimpleKind) (span : Span)
  /-- A statement with a body. -/
  | compound (kind : CompoundKind) (span : Span) (body : List Statement)
deriving Repr

namespace Statement

/-- Where a statement stands. -/
def span : Statement → Span
  | simple _ s => s
  | compound _ s _ => s

/-- The body of a statement that has one. -/
def body? : Statement → Option (List Statement)
  | simple _ _ => none
  | compound _ _ body => some body

/-- The name of the type of a statement. -/
def typeName : Statement → String
  | simple kind _ => kind.typeName
  | compound kind _ _ => kind.typeName

mutual

/-- A statement and all statements below it, each before those in its body. -/
def preorder : Statement → List Statement
  | simple kind s => [simple kind s]
  | compound kind s body => compound kind s body :: preorderAll body

/-- Statements and all statements below them. -/
def preorderAll : List Statement → List Statement
  | [] => []
  | s :: ss => s.preorder ++ preorderAll ss

end

@[simp] theorem preorder_simple (kind : SimpleKind) (s : Span) :
    (simple kind s).preorder = [simple kind s] := by rw [preorder]

@[simp] theorem preorder_compound (kind : CompoundKind) (s : Span) (body : List Statement) :
    (compound kind s body).preorder = compound kind s body :: preorderAll body := by rw [preorder]

@[simp] theorem preorderAll_nil : preorderAll [] = [] := by rw [preorderAll]

@[simp] theorem preorderAll_cons (s : Statement) (ss : List Statement) :
    preorderAll (s :: ss) = s.preorder ++ preorderAll ss := by rw [preorderAll]

@[simp] theorem preorderAll_append (ss ts : List Statement) :
    preorderAll (ss ++ ts) = preorderAll ss ++ preorderAll ts := by
  induction ss with
  | nil => simp
  | cons s ss ih => simp [ih]

end Statement

end ScriptStyle
