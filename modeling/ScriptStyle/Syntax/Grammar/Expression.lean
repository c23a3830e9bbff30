import ScriptStyle.Syntax.Grammar.Literal
import ScriptStyle.Syntax.Grammar.Markup

/-!
# Expressions

An expression is an operand and then, as long as they bind strongly enough, suffixes and operators
with their right operands. Each of these makes a new node of everything read so far, so the loop
builds trees that lean to the left; a right operand is a goal of its own.

An assignment, an arrow and a yield take whatever follows into their right side. Nothing can be
left for the loop after them, so they need no level.
-/

namespace ScriptStyle.Grammar

open Rule

variable (g : Grammar)

/-! ## Binary operators -/

/-- The levels of the operators between two operands. -/
def binaryLevels : List (List Char × Level) :=
  [(['?', '?'], 2), (['|', '|'], 3), (['&', '&'], 4), (['|'], 5), (['^'], 6), (['&'], 7),
    (['=', '='], 8), (['=', '=', '='], 8), (['!', '='], 8), (['!', '=', '='], 8), (['<'], 9),
    (['<', '='], 9), (['>'], 9), (['>', '='], 9), (['<', '<'], 11), (['>', '>'], 11),
    (['>', '>', '>'], 11), (['+'], 12), (['-'], 12), (['*'], 13), (['/'], 13), (['%'], 13),
    (['*', '*'], 14)]

/-- The level that the right operand of an operator must have: operators group to the left, but
powers group to the right. -/
def rightLevel (level : Level) : Level := if level = .power then level else level + 1

/-- The operators that assign to what stands before them. -/
def assigning : List (List Char) :=
  [['+', '='], ['-', '='], ['*', '='], ['/', '='], ['%', '='], ['^', '='], ['&', '='], ['|', '='],
    ['>', '>', '='], ['>', '>', '>', '='], ['<', '<', '='], ['*', '*', '='], ['&', '&', '='],
    ['|', '|', '='], ['?', '?', '=']]

/-! ## Suffixes -/

/-- The name after a dot. -/
def memberName : Rule :=
  past .plain >> (anyWord .property <|> lexeme .property Lexeme.privateName)

/-- An index in brackets. -/
def index : Rule := mark ['['] >> past .plain >> g.sequence false >> symbol .inner [']']

/-- What stands behind the mark of an optional access. `gap` is the one before the mark. -/
def optionalAccess (gap : Gap) : Rule :=
  let chain := past gap >> lexeme .optionalChain (spelled ['?', '.']) >> past .plain
  oneOf
    [onTop Tree.isPrimary >> extend .call (chain >> g.arguments),
      extend .subscript (chain >> g.index),
      extend .member (chain >> (anyWord .property <|> lexeme .property Lexeme.privateName))]

/-- Accesses by name and by index, which bind most strongly. -/
def access (gap : Gap) (d : Cursor) : Rule :=
  match d.rest with
  | '.' :: _ => extend .member (past gap >> mark ['.'] >> memberName)
  | '[' :: _ => extend .subscript (past gap >> g.index)
  | '?' :: '.' :: c :: _ => if c.isDigit then fail else g.optionalAccess gap
  | _ => fail

/-- A template literal right after the function that reads it. -/
def tagged (gap : Gap) (d : Cursor) : Rule :=
  if d.rest.head?.any (·.toNat = 96) then extend .call (past gap >> g.template) else fail

/-- The question mark of a choice. Only plain spaces may stand right before it. -/
def startsChoice (d : Cursor) : Bool :=
  let spaced := match d.top? with
    | some (.leaf .blank chars) => chars.all Characters.isSpace
    | _ => true
  spaced && match d.rest with
    | '?' :: '?' :: _ => false
    | '?' :: '.' :: c :: _ => c.isDigit
    | '?' :: '.' :: [] => false
    | '?' :: _ => true
    | _ => false

/-- The two values of a choice. -/
def choice (gap : Gap) (tail : Bool) : Rule :=
  extend .ternary
    (past gap >> mark ['?'] >> past .plain >> g.value false .any >> symbol .inner [':'] >>
      past .plain >> g.value tail .choice)

/-- An operator spelled with letters and its right operand. -/
def wordOperator (gap : Gap) (tail : Bool) (d : Cursor) : Rule :=
  if Word.relations.contains d.word then
    extend .binary
      (past gap >> keyword d.word >> past .plain >> g.value tail (rightLevel .relation))
  else fail

/-- One step of an expression after an operand. `d` stands behind the gap after the operand. -/
def stepAt (tail : Bool) (level : Level) (beforeIn : Bool) (d : Cursor) : Rule :=
  let gap := Gap.after tail
  let op := operatorAhead d
  let right (kind : NodeKind) (level : Level) : Rule :=
    extend kind (past gap >> mark op >> past .plain >> g.value tail level)
  if op = ['='] then onTop Tree.isAssignable >> right .assignment .any
  else if assigning.contains op then onTop Tree.isUpdatable >> right .augmentedAssignment .any
  else
    onTop (!·.onlyBinds) >>
    if op = ['+', '+'] || op = ['-', '-'] then
      if level ≤ .update then extend .update (past gap >> mark op) else fail
    else if level ≤ .choice && startsChoice d then g.choice gap tail
    else match binaryLevels.lookup op with
      | some n => if level ≤ n then right .binary (rightLevel n) else fail
      | none =>
        oneOf
          [g.access gap d,
            onTop (fun t => t.isPrimary || t.hasKind .construction) >> g.tagged gap d,
            check (fun _ => d.rest.head? == some '(') >> extend .call (past gap >> g.arguments),
            if level ≤ .relation && !(beforeIn && d.word = ['i', 'n']) then
              g.wordOperator gap tail d
            else fail]

/-- One step of an expression after an operand. -/
def step (tail : Bool) (level : Level) (beforeIn : Bool) : Rule := pick fun c =>
  match (Gap.after tail).pass c with
  | (d, false) => g.stepAt tail level beforeIn d
  | (_, true) => fail

/-- An expression after its first operand. -/
def steps (tail : Bool) (level : Level) : Rule := many (g.step tail level false)

/-! ## Operands -/

/-- What follows the gap cannot begin a statement, so it continues the expression before it. -/
def continuesExpression : Rule :=
  ahead (.after true) fun d =>
    Word.relations.contains d.word || startsChoice d ||
      (operatorAhead d = ['.'] && !(d.rest.drop 1).head?.any Characters.isDigit) ||
      [[','], ['?', '.'], ['='], ['|', '|'], ['&', '&'], ['?', '?'], ['|'], ['&'], ['^'],
        ['*'], ['%'], ['*', '*'], ['=', '='], ['=', '=', '='], ['!', '='], ['!', '=', '='], ['>'],
        ['>', '='], ['>', '>'], ['>', '>', '>'], ['<', '='], ['<', '<']].contains
        (if d.rest.head? == some ',' then [','] else operatorAhead d)

/-- A label is ahead: a word and a colon. -/
def labelAhead : Rule := followedBy (anyWord .property >> symbol (.after true) [':'])

/-- Behind an opening brace, a label or the name of a pair is ahead. -/
def braceThenLabel : Rule := followedBy (mark ['{'] >> past .plain >> labelAhead)

/-- An empty pair of braces. -/
def emptyBraces : Rule := mark ['{'] >> symbol .plain ['}']

/-- Values of which the first begins with a brace where a block could stand instead. -/
def leadingValue (tail : Bool) : Rule :=
  g.leadingObject tail >> g.steps tail .any >> onTop (!·.onlyBinds)

/-- The arrow and the body of a function, with the gap before the arrow. A brace opens a block
unless only an object makes sense; a name and a colon behind it are read as an object first. -/
def arrowBody (gap : Gap) (tail : Bool) : Rule :=
  let braced :=
    (braceThenLabel >> g.leadingValue tail) <|>
      (notFollowedBy (emptyBraces >> continuesExpression) >> g (.block true)) <|>
      g.leadingValue tail
  past gap >> operator ['=', '>'] >> past .plain >>
    (check (fun c => c.rest.head? == some '{') >> braced <|>
      check (fun c => c.rest.head? != some '{') >> g.value tail .any)

/-- An arrow is ahead, behind a gap. -/
def arrowAhead (gap : Gap) : Rule := followedBy (past gap >> operator ['=', '>'])

/-- The list in parentheses is one or more values. -/
def holdsValues (t : Tree) : Bool :=
  let parts := t.children.filter (!·.isTrivia)
  let before := (parts.dropLast).getLast?
  parts.all (fun t => !t.onlyBinds && !t.hasKind .spread) &&
    !before.any fun t => t.isLexeme .punctuator ['('] || t.isLexeme .punctuator [',']

/-- Parentheses around values, or an arrow function whose parameters they hold. -/
def parenthesized (tail : Bool) : Rule :=
  node .parenthesized
      (mark ['('] >>
        optional (past .plain >> commaSeparated .inList g.element >>
          optional (symbolBehind .inList [','])) >>
        symbolBehind .inList [')']) >>
    (arrowAhead .plain >> onTop (fun t => Tree.allBind .element t.children) >>
        resume .parameters skip >> extend .arrow (g.arrowBody .plain tail) <|>
      notFollowedBy (arrowAhead .plain) >> onTop holdsValues)

/-- A name, or an arrow function whose only parameter it is. -/
def nameOrArrow (tail : Bool) : Rule :=
  variableName >>
    (extend .arrow (g.arrowBody (.after tail) tail) <|> notFollowedBy (arrowAhead (.after tail)))

/-- What the word `async` begins: a function, an arrow function, or an ordinary name. -/
def asynchronous (tail : Bool) : Rule :=
  let opening := keyword ['a', 's', 'y', 'n', 'c'] >> past (.after tail)
  let isFunction := check fun c => c.word = ['f', 'u', 'n', 'c', 't', 'i', 'o', 'n']
  oneOf
    [followedBy (opening >> isFunction) >>
        node .function (g.functionWith (optional functionName) true),
      node .arrow (opening >> variableName >> g.arrowBody .plain tail),
      node .arrow (opening >> g.parameters >> g.arrowBody .plain tail),
      notFollowedBy (opening >> isFunction) >> g.nameOrArrow tail]

/-- The characters behind the word `yield` begin a value. -/
def startsOperand (c : Cursor) : Bool :=
  if 0 < Lexeme.word c.rest then !Word.relations.contains c.word
  else 0 < Lexeme.number c.rest ||
    ['(', '[', '{', '+', '-', '~', '/', '"', '\'', '#', '@'].any (c.rest.head? == some ·) ||
    operatorAhead c = ['!'] || operatorAhead c = ['<'] || c.rest.head?.any (·.toNat = 96)

/-- A yield, with a value unless it ends its statement or a closing bracket follows. -/
def yield (tail : Bool) : Rule :=
  node .yield
    (keyword ['y', 'i', 'e', 'l', 'd'] >>
      (past (.after tail) >>
          (operator ['*'] >> past .plain >> g.value tail .any <|>
            check startsOperand >> g.value tail .any) <|>
        notFollowedBy (past (.after tail) >> check fun c =>
          startsOperand c || operatorAhead c = ['*'])))

/-- A class as a value. -/
def classValue : Rule :=
  node .classExpression (g.decorators >> g.classWith (optional className))

/-- What the word `import` begins as a value. -/
def importValue : Rule :=
  let word := keyword ['i', 'm', 'p', 'o', 'r', 't']
  oneOf
    [node .call (word >> past .plain >> g.arguments),
      node .metaProperty
        (word >> symbol .plain ['.'] >> wordAfter .plain ['m', 'e', 't', 'a']),
      node .member
        (word >> past .plain >> lexeme .optionalChain (spelled ['?', '.']) >> memberName)]

/-- An operator spelled with letters before its operand. -/
def wordPrefix (kind : NodeKind) (tail : Bool) (c : Cursor) : Rule :=
  node kind (keyword c.word >> past .plain >> g.value tail .update)

/-- An operand that begins with a word. -/
def wordOperand (tail : Bool) : Rule := pick fun c =>
  match c.word with
  | ['f', 'u', 'n', 'c', 't', 'i', 'o', 'n'] =>
    node .function (g.functionWith (optional functionName) true)
  | ['c', 'l', 'a', 's', 's'] => g.classValue
  | ['n', 'e', 'w'] => g (.construction tail)
  | ['a', 'w', 'a', 'i', 't'] => g.wordPrefix .await tail c
  | ['y', 'i', 'e', 'l', 'd'] => g.yield tail
  | ['i', 'm', 'p', 'o', 'r', 't'] => g.importValue
  | ['a', 's', 'y', 'n', 'c'] => g.asynchronous tail
  | word =>
    if Word.operators.contains word then g.wordPrefix .unary tail c
    else if Word.values.contains word then keyword word
    else g.nameOrArrow tail

/-- An operator before its operand. -/
def signed (tail : Bool) : Rule :=
  node .update
      ((mark ['+', '+'] <|> mark ['-', '-']) >> past .plain >> g.value tail .call) <|>
    node .unary
      (oneOf [mark ['+'], mark ['-'], mark ['!'], mark ['~']] >> past .plain >>
        g.value tail .update)

/-- A test whether an object has a private member. -/
def privateTest (tail : Bool) : Rule :=
  node .binary
    (lexeme .property Lexeme.privateName >> wordAfter .plain ['i', 'n'] >> past .plain >>
      g.value tail (rightLevel .relation))

/-- An operand with the operators before it. -/
def operand (tail : Bool) : Rule := pick fun c =>
  match c.rest with
  | [] => fail
  | c :: _ =>
    if c = '(' then g.parenthesized tail
    else if c = '[' then g.array
    else if c = '{' then g .object
    else if c.toNat = 96 then g.template
    else if c = '"' || c = '\'' then lexeme .string Lexeme.string
    else if c = '<' then g .markup
    else if c = '/' then lexeme .regex Lexeme.regex
    else if c = '#' then g.privateTest tail
    else if c = '@' then g.classValue
    else if c = '.' || c.isDigit then lexeme .number Lexeme.number
    else if ['+', '-', '!', '~'].contains c then g.signed tail
    else g.wordOperand tail

/-- An expression whose operators bind at least as strongly as `level`. -/
def expression (tail : Bool) (level : Level) : Rule := g.operand tail >> g.steps tail level

/-- The initial value of a loop variable before the word `in`. -/
def valueBeforeIn (tail : Bool) : Rule :=
  g.operand tail >> many (g.step tail .relation true) >> onTop (!·.onlyBinds)

/-- A construction. What is constructed is named by accesses, not by calls, so the first list of
values belongs to the construction. -/
def construction (tail : Bool) : Rule :=
  let word := keyword ['n', 'e', 'w']
  let constructor :=
    check (fun c => c.word = ['n', 'e', 'w']) >> g (.construction tail) <|>
      check (fun c => c.word != ['n', 'e', 'w']) >> g.operand tail
  let suffix : Rule := pick fun c =>
    match (Gap.after tail).pass c with
    | (d, false) =>
      onTop (!·.onlyBinds) >> oneOf
        [onTop (!·.hasKind .construction) >> g.access (.after tail) d,
          onTop (fun t => t.isPrimary || t.hasKind .construction) >> g.tagged (.after tail) d]
    | (_, true) => fail
  node .metaProperty
      (word >> symbol .plain ['.'] >> wordAfter .plain ['t', 'a', 'r', 'g', 'e', 't']) <|>
    node .construction
      (word >> past .plain >> constructor >> many suffix >>
        onTop (fun t => (t.isPrimary || t.hasKind .construction) && !t.onlyBinds) >>
        optional (past (.after tail) >> g.arguments))

end ScriptStyle.Grammar
