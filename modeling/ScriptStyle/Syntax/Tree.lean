import ScriptStyle.Text.Position

/-!
# Concrete syntax trees

A tree keeps every character of the text it was read from: blanks and comments are leaves like any
other lexeme, and the text of a node is the text of its children one after the other. Positions are
therefore not stored. A node occupies exactly the characters below it, so siblings follow one
another, never overlap, and lie inside their parent.

Two constructors mark damage. A node of kind `NodeKind.error` wraps lexemes that fit nowhere, and a
`Tree.missing` leaf stands for a lexeme that the grammar demands and the text lacks.
-/

namespace ScriptStyle

/-- What a leaf is. -/
inductive LeafKind where
  /-- White space between lexemes. -/
  | blank
  /-- A comment of any form, or the interpreter line at the head of a script. -/
  | comment
  /-- A word with a meaning of its own where it stands. -/
  | keyword
  /-- An operator, bracket or separator. -/
  | punctuator
  /-- A name that refers to a variable or binds one. -/
  | name
  /-- A name that refers to no variable: of a property, a private member, a label. -/
  | property
  /-- A property of an object literal that stands for its own name and value. -/
  | shorthand
  /-- The mark of an optional access. -/
  | optionalChain
  /-- A number. -/
  | number
  /-- A quoted string, or literal text between markup tags. -/
  | string
  /-- A regular expression with its delimiters and flags. -/
  | regex
  /-- One piece of a template literal outside its substitutions. -/
  | template
deriving DecidableEq, Repr

/-- What an inner node is. Brackets and braces serve literals and binding patterns alike, because a
reader learns only afterwards which of the two a list is; the kinds `arrayPattern` and
`objectPattern` are lists that can be nothing but patterns. -/
inductive NodeKind where
  | program
  -- statements
  | exportStatement | importStatement | debuggerStatement | expressionStatement
  | varDeclaration | lexicalDeclaration | functionDeclaration | classDeclaration
  | block | ifStatement | switchStatement | forStatement | forInStatement | whileStatement
  | doStatement | tryStatement | withStatement | breakStatement | continueStatement
  | returnStatement | throwStatement | emptyStatement | labeledStatement
  -- parts of statements
  | declarator | loopHead | elseClause | switchBody | switchCase | catchClause | finallyClause
  | importClause | exportClause | decorator
  -- parts of classes
  | classBody | classHeritage | methodDefinition | fieldDefinition | staticBlock
  -- primary expressions
  | parenthesized | array | object | arrayPattern | objectPattern | function | arrow
  | classExpression | template | substitution | metaProperty | call | member | subscript
  -- other expressions
  | assignment | augmentedAssignment | unary | binary | ternary | update | construction
  | await | yield | markup
  -- parts of expressions
  | arguments | parameters | pair | spread | computedName | shorthandDefault
  -- parts of markup
  | markupAttribute | markupExpression
  -- damage
  | error
deriving DecidableEq, Repr

/-- A concrete syntax tree. -/
inductive Tree where
  /-- One lexeme with its characters. -/
  | leaf (kind : LeafKind) (chars : List Char)
  /-- A lexeme that is demanded but absent, with its spelling. -/
  | missing (spelling : String)
  /-- A construct made of its parts. -/
  | node (kind : NodeKind) (children : List Tree)
deriving Inhabited

namespace Tree

mutual

/-- The characters of a tree. -/
def text : Tree → List Char
  | leaf _ chars => chars
  | missing _ => []
  | node _ children => textOf children

/-- The characters of trees that follow one another. -/
def textOf : List Tree → List Char
  | [] => []
  | t :: ts => t.text ++ textOf ts

end

mutual

/-- The place after a tree that begins at `p`. -/
def advance (p : Position) : Tree → Position
  | leaf _ chars => p.advance chars
  | missing _ => p
  | node _ children => advanceAll p children

/-- The place after trees that follow one another from `p`. -/
def advanceAll (p : Position) : List Tree → Position
  | [] => p
  | t :: ts => advanceAll (t.advance p) ts

end

/-- The stretch of text that a tree occupies when it begins at `p`. -/
def span (p : Position) (t : Tree) : Span := ⟨p, t.advance p⟩

/-- The kind of an inner node. -/
def kind? : Tree → Option NodeKind
  | node k _ => some k
  | _ => none

/-- The parts of an inner node. -/
def children : Tree → List Tree
  | node _ ts => ts
  | _ => []

/-- An inner node of kind `k`. -/
def hasKind (k : NodeKind) (t : Tree) : Bool := t.kind? == some k

/-- A leaf of kind `k`. -/
def isLeaf (k : LeafKind) : Tree → Bool
  | leaf k' _ => k == k'
  | _ => false

/-- A leaf with the given kind and spelling. -/
def isLexeme (k : LeafKind) (spelling : List Char) : Tree → Bool
  | leaf k' chars => k == k' && chars == spelling
  | _ => false

/-- A blank leaf or a comment: what the grammar passes over. -/
def isTrivia (t : Tree) : Bool := t.isLeaf .blank || t.isLeaf .comment

end Tree

namespace NodeKind

/-- The kinds of nodes that stand where a statement may stand. -/
def isStatement : NodeKind → Bool
  | exportStatement | importStatement | debuggerStatement | expressionStatement
  | varDeclaration | lexicalDeclaration | functionDeclaration | classDeclaration
  | block | ifStatement | switchStatement | forStatement | forInStatement | whileStatement
  | doStatement | tryStatement | withStatement | breakStatement | continueStatement
  | returnStatement | throwStatement | emptyStatement | labeledStatement => true
  | _ => false

/-- The kinds of expressions that a template literal or an optional call may directly follow. -/
def isPrimary : NodeKind → Bool
  | parenthesized | array | object | function | arrow | classExpression | template
  | metaProperty | call | member | subscript => true
  | _ => false

end NodeKind

namespace Tree

/-- A statement. -/
def isStatement : Tree → Bool
  | node k _ => k.isStatement
  | _ => false

/-! ## The text and the places of a tree agree -/

mutual

theorem advance_eq (p : Position) : ∀ t : Tree, t.advance p = p.advance t.text
  | leaf _ _ => rfl
  | missing _ => rfl
  | node _ children => by rw [advance, text, advanceAll_eq p children]

theorem advanceAll_eq (p : Position) : ∀ ts : List Tree, advanceAll p ts = p.advance (textOf ts)
  | [] => rfl
  | t :: ts => by
    rw [advanceAll, textOf, Position.advance_append, advance_eq p t, advanceAll_eq _ ts]

end

@[simp] theorem text_leaf (k : LeafKind) (cs : List Char) : (leaf k cs).text = cs := by
  rw [text]

@[simp] theorem text_missing (s : String) : (missing s).text = [] := by rw [text]

@[simp] theorem text_node (k : NodeKind) (ts : List Tree) : (node k ts).text = textOf ts := by
  rw [text]

@[simp] theorem textOf_nil : textOf [] = [] := by rw [textOf]

@[simp] theorem textOf_cons (t : Tree) (ts : List Tree) :
    textOf (t :: ts) = t.text ++ textOf ts := by rw [textOf]

@[simp] theorem textOf_append (ts us : List Tree) :
    textOf (ts ++ us) = textOf ts ++ textOf us := by
  induction ts with
  | nil => simp
  | cons t ts ih => simp [ih]

end Tree

end ScriptStyle
