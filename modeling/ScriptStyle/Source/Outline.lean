import ScriptStyle.Syntax.Tree
import ScriptStyle.Source.Statement

/-!
# The statements of a tree

The outline of a tree keeps its statements and forgets its expressions. What a node contributes
depends on where it stands, its `Place`: a block is a statement among statements, but as the body of
a loop or a function it only lends its statements to it. The branches of a control statement, its
clauses included, contribute to one body, in the order of the text.

An export of a declaration is that declaration.
-/

namespace ScriptStyle

namespace Tree

/-- Whether a name is looked for among bindings or among the values that bindings refer to. -/
inductive Binding where
  | pattern | value
deriving DecidableEq

mutual

/-- The names that a pattern binds. The names in an expression to which a pattern assigns count
too; keys and default values do not. -/
def bound (b : Binding) (p : Position) : Tree → List Identifier
  | leaf .name chars => [⟨chars, .cover p chars⟩]
  | leaf .shorthand chars => if b = .pattern then [⟨chars, .cover p chars⟩] else []
  | leaf _ _ => []
  | missing _ => []
  | node .parameters ts => boundAll .pattern p ts
  | node .arrayPattern ts => boundAll .pattern p ts
  | node .objectPattern ts => boundAll .pattern p ts
  | node .array ts => boundAll b p ts
  | node .object ts => boundAll b p ts
  | node .spread ts => boundAll b p ts
  | node .pair ts => match b with
    | .pattern => boundLast p ts
    | .value => boundAll .value p ts
  | node .shorthandDefault (t :: _) => bound .pattern p t
  | node .assignment (t :: ts) =>
    bound .pattern p t ++ match b with
      | .pattern => []
      | .value => boundAll .value (t.advance p) ts
  | node _ ts => boundAll .value p ts

/-- The names that trees bind one after the other. -/
def boundAll (b : Binding) (p : Position) : List Tree → List Identifier
  | [] => []
  | t :: ts => bound b p t ++ boundAll b (t.advance p) ts

/-- The names that the last of some trees binds. -/
def boundLast (p : Position) : List Tree → List Identifier
  | [] => []
  | [t] => bound .pattern p t
  | t :: u :: ts => boundLast (t.advance p) (u :: ts)

end

/-- The names that the declarators among some trees bind. -/
def declaredNames (p : Position) : List Tree → List Identifier
  | [] => []
  | t :: ts =>
    (match t with
      | node .declarator (u :: _) => bound .pattern p u
      | _ => []) ++ declaredNames (t.advance p) ts

/-- The first name among some trees. -/
def firstName? (p : Position) : List Tree → Option Identifier
  | [] => none
  | leaf .name chars :: _ => some ⟨chars, .cover p chars⟩
  | t :: ts => firstName? (t.advance p) ts

/-- The word that begins a declaration of constants or variables. -/
def declarationKind (ts : List Tree) : DeclarationKind :=
  if ts.head?.any (·.isLexeme .keyword ['c', 'o', 'n', 's', 't']) then .const else .let_

/-- The place behind a semicolon that follows with nothing but blanks before it. -/
def semicolonEnd? (p : Position) : List Tree → Option Position
  | leaf .blank chars :: ts => semicolonEnd? (p.advance chars) ts
  | leaf .punctuator [';'] :: _ => some (p.advance [';'])
  | _ => none

/-- Where a node stands. -/
inductive Place where
  /-- Among statements. -/
  | list
  /-- Where it lends its statements to a body. -/
  | branch
  /-- Among the cases of a switch. -/
  | cases
  /-- In a class, or among its members. -/
  | members
  /-- Below the word `export`. -/
  | exported
deriving DecidableEq

/-- The kind of a statement without a body. -/
def simpleKind? (p : Position) (ts : List Tree) : NodeKind → Option SimpleKind
  | .varDeclaration => some (.declaration .var (declaredNames p ts))
  | .lexicalDeclaration => some (.declaration (declarationKind ts) (declaredNames p ts))
  | .expressionStatement => some .expression
  | .returnStatement => some .return
  | .throwStatement => some .throw
  | .breakStatement => some .break
  | .continueStatement => some .continue
  | .importStatement => some .imports
  | .debuggerStatement => some .debugger
  | .emptyStatement => some .empty
  | _ => none

/-- The kind of a statement with a body, and where the parts of the body stand. -/
def compoundKind? (p : Position) (ts : List Tree) : NodeKind → Option (CompoundKind × Place)
  | .functionDeclaration => some (.function (firstName? p ts), .branch)
  | .classDeclaration => some (.classBody (firstName? p ts), .members)
  | .block => some (.block, .list)
  | .ifStatement => some (.control .ifElse, .branch)
  | .switchStatement => some (.control .switch, .cases)
  | .forStatement => some (.control .for, .branch)
  | .forInStatement => some (.control .forIn, .branch)
  | .whileStatement => some (.control .while, .branch)
  | .doStatement => some (.control .doWhile, .branch)
  | .tryStatement => some (.control .try, .branch)
  | .withStatement => some (.control .with, .branch)
  | .labeledStatement => some (.control .labeled, .branch)
  | _ => none

/-- What an exported value is if it counts as a declaration. -/
def valueKind? (p : Position) (ts : List Tree) : NodeKind → Option (CompoundKind × Place)
  | .function => some (.function (firstName? p ts), .branch)
  | .classExpression => some (.classBody (firstName? p ts), .members)
  | k => if k = .functionDeclaration || k = .classDeclaration then compoundKind? p ts k else none

/-- What a member of a class is if it has a body. -/
def memberKind? : NodeKind → Option CompoundKind
  | .methodDefinition => some .method
  | .staticBlock => some .staticBlock
  | _ => none

/-- Where the parts of a node stand that is no statement itself, if they may be statements. -/
def passage? : Place → NodeKind → Option Place
  | .branch, .block => some .list
  | .branch, .elseClause => some .branch
  | .branch, .catchClause => some .branch
  | .branch, .finallyClause => some .branch
  | .cases, .switchBody => some .cases
  | .cases, .switchCase => some .list
  | .members, .classBody => some .members
  | _, _ => none

/-- The statement that a node is, and where the parts of its body stand. -/
def compoundAt? (place : Place) (p : Position) (ts : List Tree) (k : NodeKind) :
    Option (CompoundKind × Place) :=
  match place with
  | .list | .branch => compoundKind? p ts k
  | .members => (memberKind? k).map (·, .branch)
  | .exported => valueKind? p ts k
  | .cases => none

/-- The statement without a body that a node is. -/
def simpleAt? (place : Place) (p : Position) (ts : List Tree) (k : NodeKind) : Option SimpleKind :=
  match place with
  | .list | .branch => simpleKind? p ts k
  | .exported =>
    if k = .varDeclaration || k = .lexicalDeclaration then simpleKind? p ts k else none
  | .members => if k = .fieldDefinition then some .field else none
  | .cases => none

mutual

/-- The statements that a tree contributes at a place when it begins at `p`. `stop` is where a field
would end. -/
def outline (place : Place) (p stop : Position) : Tree → List Statement
  | leaf _ _ => []
  | missing _ => []
  | node k ts =>
    match passage? place k with
    | some place' => outlineAll place' p ts
    | none =>
      match compoundAt? place p ts k with
      | some (kind, place') =>
        [.compound kind ⟨p, advanceAll p ts⟩ (outlineAll place' p ts)]
      | none =>
        match simpleAt? place p ts k with
        | some kind => [.simple kind ⟨p, stop⟩]
        | none =>
          if k = .exportStatement && (place = .list || place = .branch) then
            match outlineAll .exported p ts with
            | [] => [.simple .exports ⟨p, advanceAll p ts⟩]
            | ss => ss
          else []

/-- The statements that trees contribute one after the other. -/
def outlineAll (place : Place) (p : Position) : List Tree → List Statement
  | [] => []
  | t :: ts =>
    let q := t.advance p
    let stop := if place = .members then (semicolonEnd? q ts).getD q else q
    outline place p stop t ++ outlineAll place q ts

end

end Tree

end ScriptStyle
