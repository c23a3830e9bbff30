import ScriptStyle.Syntax.Grammar.Module

/-!
# Statements

A statement is chosen by its first word. Three beginnings are shared with expressions: a brace opens
a block or an object, and functions and classes with a name are declarations unless an operator goes
on with them. In each case the shared part is read once where that is possible, and what follows
decides.
-/

namespace ScriptStyle.Grammar

open Rule

variable (g : Grammar)

/-- The rest of an expression statement after its first operand. -/
def expressionRest : Rule :=
  g.steps true .any >> onTop (!·.onlyBinds) >>
    many (symbol (.after true) [','] >> past .plain >> g.value true .any) >> semicolon true

/-- An expression as a statement. -/
def expressionStatement : Rule :=
  node .expressionStatement (g.sequence true >> semicolon true)

/-! ## Declarations -/

/-- A name to be bound, or a list of them. -/
def bindingTarget : Rule :=
  pick fun c =>
    if c.rest.head? == some '[' then g.array >> onTop (Tree.binds .target)
    else if c.rest.head? == some '{' then g .object >> onTop (Tree.binds .target)
    else anyWord .name

/-- A name to be bound and its initial value. -/
def declarator : Rule :=
  node .declarator (g.bindingTarget >> optional (g.initializer .closing true))

/-- The declaration read last has an initial value. -/
def isInitialized (c : Cursor) : Bool :=
  c.top?.any fun t => t.children.any (·.isLexeme .punctuator ['='])

/-- Declarators and the semicolon after them. -/
def declarators : Rule :=
  g.declarator >>
    many (pick fun c => symbol ⟨true, isInitialized c⟩ [','] >> past .plain >> g.declarator) >>
    pick fun c => semicolon (isInitialized c)

/-- A declaration of variables. -/
def variableDeclaration : Rule := pick fun c =>
  match c.word with
  | ['v', 'a', 'r'] => node .varDeclaration (keyword c.word >> past .plain >> g.declarators)
  | ['c', 'o', 'n', 's', 't'] =>
    node .lexicalDeclaration (keyword c.word >> past .plain >> g.declarators)
  | ['l', 'e', 't'] =>
    node .lexicalDeclaration (keyword c.word >> past .inner >> g.declarators)
  | _ => fail

/-- Behind the word `let` and a gap, a name or a list to be bound is ahead. The words in `reserved`
are no such names. -/
def letDeclares (gap : Gap) (reserved : List (List Char)) : Rule :=
  followedBy (keyword ['l', 'e', 't'] >> past gap >> check fun c =>
    c.rest.head? == some '[' || c.rest.head? == some '{' ||
      (!c.word.isEmpty && !reserved.contains c.word))

/-- The word `let` begins a declaration that is a statement. -/
def letStatement : Rule := letDeclares (.after true) Word.relations

/-- The word `function` is ahead, alone or behind the word `async` and a gap. -/
def startsFunction (gap : Gap) : Rule :=
  let word := keyword ['f', 'u', 'n', 'c', 't', 'i', 'o', 'n']
  followedBy (word <|> keyword ['a', 's', 'y', 'n', 'c'] >> past gap >> word)

/-- A class is ahead, alone or behind decorators. -/
def startsClass : Rule :=
  check fun c => c.rest.head? == some '@' || c.word = ['c', 'l', 'a', 's', 's']

/-- The function or class read last has a name. -/
def isNamed (t : Tree) : Bool := t.children.any (·.isLeaf .name)

/-- A function or a class with a name. `operand` tells whether an operator could follow. -/
def declaration (operand : Bool) : Rule :=
  oneOf
    [g.variableDeclaration,
      startsFunction .inner >> node .functionDeclaration (g.functionWith functionName operand),
      startsClass >>
        node .classDeclaration (g.decorators >> g.classWith className >> mayEnd operand)]

/-- A function or a class that begins a statement. -/
def functionOrClass : Rule :=
  startsFunction .inner >> node .function (g.functionWith (optional functionName) true) <|>
    startsClass >> g.classValue

/-- What follows the gap could begin another statement but must belong to the one at hand, because
no other statement can follow it. -/
def continuesAlone (alone : Bool) : Rule :=
  check (fun _ => alone) >> past (.after true) >> check fun c =>
    c.rest.head?.any fun d => d.toNat = 96 || [';', '(', '[', '+', '-', '/', '<'].contains d

/-- A function or class read last becomes a declaration if it has a name and no operator goes on
with it. -/
def declared (alone : Bool) : Rule :=
  onTop isNamed >> notFollowedBy continuesExpression >> notFollowedBy (continuesAlone alone) >>
    (onTop (·.hasKind .function) >> resume .functionDeclaration skip <|>
      onTop (·.hasKind .classExpression) >> resume .classDeclaration (mayEnd true))

/-- A function or class read last becomes a declaration, or the first operand of `value`. -/
def declaredOr (alone : Bool) (value : Rule) : Rule :=
  declared alone >> noMarkupComment true <|> notFollowedBy (declared alone) >> value

/-- A statement that begins with a function or a class. -/
def functionOrClassStatement (alone : Bool) : Rule :=
  g.functionOrClass >> declaredOr alone (extend .expressionStatement g.expressionRest)

/-! ## Exports -/

/-- An export of a declaration or of a value. `gap` is the one behind the word `export`. -/
def exportDeclaration (gap : Gap) : Rule :=
  let opening := g.decorators >> keyword ['e', 'x', 'p', 'o', 'r', 't'] >> past gap
  let value : Rule := pick fun c =>
    if ((startsFunction (.after true)).run c).isSome || (startsClass.run c).isSome then
      g.functionOrClass >> declaredOr false (g.steps true .any >> semicolon true)
    else (otherWord [['l', 'e', 't']] <|> letStatement) >> g.variableDeclaration <|>
      otherWord [['v', 'a', 'r'], ['c', 'o', 'n', 's', 't']] >> g.value true .any >> semicolon true
  node .exportStatement
    (opening >>
      (keyword ['d', 'e', 'f', 'a', 'u', 'l', 't'] >> past .plain >> value <|>
        g.declaration false))

/-- What the word `export` begins: an export, or an expression with that word as a name. -/
def exported : Rule :=
  let opening := keyword ['e', 'x', 'p', 'o', 'r', 't'] >> past (.after true)
  let isClause := check fun c => operatorAhead c = ['*'] || c.rest.head? == some '{'
  followedBy (opening >> isClause) >> node .exportStatement (opening >> exportClause) <|>
    notFollowedBy (opening >> isClause) >>
      (g.exportDeclaration (.after true) <|> g.expressionStatement)

/-! ## Control -/

/-- A condition in parentheses. -/
def condition : Rule :=
  node .parenthesized (mark ['('] >> past .plain >> g.sequence false >> symbol .inner [')'])

/-- A nested statement. -/
def body (alone : Bool) : Rule := past .plain >> g (.statement alone)

/-- A choice between two statements. -/
def ifStatement (alone : Bool) : Rule :=
  let word := ['e', 'l', 's', 'e']
  node .ifStatement
    (keyword ['i', 'f'] >> past .plain >> g.condition >> g.body alone >>
      (notFollowedBy (wordAfter .plain word) <|>
        past .plain >> node .elseClause (keyword word >> g.body alone)))

/-- The statements of a case, up to the next one. -/
def caseBody : Rule :=
  many (past .plain >> check (fun c => c.word != ['c', 'a', 's', 'e'] &&
    c.word != ['d', 'e', 'f', 'a', 'u', 'l', 't']) >> g (.statement false))

/-- A case of a switch. -/
def switchCase : Rule :=
  node .switchCase
    ((keyword ['c', 'a', 's', 'e'] >> past .plain >> g.sequence false >> symbol .inner [':'] <|>
        keyword ['d', 'e', 'f', 'a', 'u', 'l', 't'] >> symbol .plain [':']) >>
      g.caseBody)

/-- A choice between many cases. -/
def switchStatement : Rule :=
  node .switchStatement
    (keyword ['s', 'w', 'i', 't', 'c', 'h'] >> past .plain >> g.condition >> past .plain >>
      node .switchBody (mark ['{'] >> many (past .plain >> g.switchCase) >> symbol .plain ['}']))

/-- What a loop over the members of a value binds, and the word `in` or `of`. -/
def loopHead (awaits : Bool) : Rule :=
  let declared (word : List Char) (gap : Gap) (reserved : List (List Char)) : Rule :=
    keyword word >> past gap >> otherWord reserved >> g.bindingTarget >> mayEnd false
  let tail := !awaits
  let varHead :=
    keyword ['v', 'a', 'r'] >> past .plain >> g.bindingTarget >> past ⟨tail, false⟩
  let initialized (value : Rule) : Rule :=
    varHead >> operator ['='] >> past .plain >> value >> past (.after tail)
  let new := declared ['l', 'e', 't'] .inner (['o', 'f'] :: Word.relations) >> past .inner
  let target :=
    otherWord [['v', 'a', 'r'], ['c', 'o', 'n', 's', 't']] >>
      notFollowedBy
        (check (fun _ => tail) >> keyword ['l', 'e', 't'] >> symbol .inner ['[']) >>
      g (.expression false .update) >> onTop Tree.isAssignable >> past .inner
  let heads :=
    [varHead, if awaits then target else new,
      declared ['c', 'o', 'n', 's', 't'] .plain [] >> past .inner, if awaits then new else target,
      initialized (g.value tail .any), initialized (g.valueBeforeIn tail)]
  oneOf (heads.map (· >> (keyword ['i', 'n'] <|> keyword ['o', 'f'])))

/-- A loop over the members of a value. -/
def forInStatement (alone : Bool) : Rule :=
  let rest (awaits : Bool) : Rule :=
    symbol .plain ['('] >> past .plain >> g.loopHead awaits >> past .plain >> g.sequence false >>
      symbol .inner [')'] >> g.body alone
  node .forInStatement
    (keyword ['f', 'o', 'r'] >>
      (wordAfter .plain ['a', 'w', 'a', 'i', 't'] >> rest true <|> rest false))

/-- The initial part, the condition and the step of a loop, each of which may be absent. -/
def loopControl : Rule :=
  let empty := node .emptyStatement (mark [';'])
  let declares := letDeclares .inner (['o', 'f'] :: Word.relations)
  node .loopHead
    (mark ['('] >> past .plain >>
      oneOf
        [empty, otherWord [['l', 'e', 't']] >> g.variableDeclaration,
          declares >> g.variableDeclaration,
          otherWord [['v', 'a', 'r'], ['c', 'o', 'n', 's', 't']] >> notFollowedBy declares >>
            g.sequence false >> symbol .inner [';']] >>
      past .plain >>
      (empty <|> g.sequence false >> symbol .inner [';']) >>
      (past .plain >> g.sequence false >> symbol .inner [')'] <|> symbol .plain [')']))

/-- A loop that counts. -/
def forStatement (alone : Bool) : Rule :=
  node .forStatement (keyword ['f', 'o', 'r'] >> past .plain >> g.loopControl >> g.body alone)

/-- A loop that tests before each round. -/
def whileStatement (alone : Bool) : Rule :=
  node .whileStatement
    (keyword ['w', 'h', 'i', 'l', 'e'] >> past .plain >> g.condition >> g.body alone)

/-- A loop that tests after each round. -/
def doStatement : Rule :=
  let word := ['w', 'h', 'i', 'l', 'e']
  node .doStatement
    (keyword ['d', 'o'] >> g.body true >> wordAfter .plain word >> past .plain >> g.condition >>
      (semicolon false <|> noMarkupComment false))

/-- Statements with what to do when they fail and when they are left. -/
def tryStatement : Rule :=
  let parameter :=
    mark ['('] >> past .plain >> g.bindingTarget >> symbol .plain [')'] >> past .plain
  node .tryStatement
    (keyword ['t', 'r', 'y'] >> past .plain >> g (.block false) >>
      (notFollowedBy (wordAfter .plain ['c', 'a', 't', 'c', 'h']) <|>
        past .plain >>
          node .catchClause
            (keyword ['c', 'a', 't', 'c', 'h'] >> past .plain >> optional parameter >>
              g (.block false))) >>
      (notFollowedBy (wordAfter .plain ['f', 'i', 'n', 'a', 'l', 'l', 'y']) <|>
        past .plain >>
          node .finallyClause
            (keyword ['f', 'i', 'n', 'a', 'l', 'l', 'y'] >> past .plain >> g (.block false))))

/-- A statement whose names are looked up in a value. -/
def withStatement (alone : Bool) : Rule :=
  node .withStatement
    (keyword ['w', 'i', 't', 'h'] >> past .plain >> g.condition >> g.body alone)

/-- A jump to a label. -/
def jump (kind : NodeKind) (word : List Char) : Rule :=
  node kind (keyword word >> optional (past .closing >> anyWord .property) >> semicolon false)

/-- A statement that leaves its function with or without a value. -/
def returnStatement : Rule :=
  node .returnStatement
    (keyword ['r', 'e', 't', 'u', 'r', 'n'] >>
      (past .closing >> g.sequence true >> semicolon true <|> semicolon false))

/-- A statement that fails with a value. -/
def throwStatement : Rule :=
  node .throwStatement
    (keyword ['t', 'h', 'r', 'o', 'w'] >> past .plain >> g.sequence true >> semicolon true)

/-! ## Choosing a statement -/

/-- A statement that a brace begins. A label behind the brace is read as the name of a pair first.
An empty pair of braces is an object if an operator or its own semicolon goes on with it, and any
other one is a pattern if an equals sign follows. -/
def braceStatement (alone : Bool) : Rule :=
  let object := node .expressionStatement (g.leadingObject true >> g.expressionRest)
  let isEmptyBlock :=
    followedBy (emptyBraces >> notFollowedBy (continuesExpression <|> continuesAlone alone))
  oneOf
    [braceThenLabel >> object,
      isEmptyBlock >> g (.block true) >> noMarkupComment true,
      notFollowedBy emptyBraces >> g (.block false) >>
        notFollowedBy (past .plain >> operator ['=']),
      notFollowedBy isEmptyBlock >> object]

/-- A statement with a label. -/
def labeledStatement (alone : Bool) : Rule :=
  node .labeledStatement (anyWord .property >> symbol (.after true) [':'] >> g.body alone)

/-- A statement whose first word has no meaning of its own. -/
def otherStatement (alone : Bool) : Rule :=
  let isLabel := otherWord ([] :: Word.reserved) >> labelAhead
  followedBy isLabel >> g.labeledStatement alone <|>
    notFollowedBy isLabel >> g.expressionStatement

/-- A statement that a word begins. -/
def wordStatement (alone : Bool) : Rule := pick fun c =>
  let word := c.word
  if word = ['v', 'a', 'r'] || word = ['c', 'o', 'n', 's', 't'] then g.variableDeclaration
  else if word = ['l', 'e', 't'] then
    letStatement >> g.variableDeclaration <|> notFollowedBy letStatement >> g.otherStatement alone
  else if word = ['i', 'f'] then g.ifStatement alone
  else if word = ['s', 'w', 'i', 't', 'c', 'h'] then g.switchStatement
  else if word = ['f', 'o', 'r'] then g.forInStatement alone <|> g.forStatement alone
  else if word = ['w', 'h', 'i', 'l', 'e'] then g.whileStatement alone
  else if word = ['d', 'o'] then g.doStatement
  else if word = ['t', 'r', 'y'] then g.tryStatement
  else if word = ['w', 'i', 't', 'h'] then g.withStatement alone
  else if word = ['b', 'r', 'e', 'a', 'k'] then jump .breakStatement word
  else if word = ['c', 'o', 'n', 't', 'i', 'n', 'u', 'e'] then jump .continueStatement word
  else if word = ['r', 'e', 't', 'u', 'r', 'n'] then g.returnStatement
  else if word = ['t', 'h', 'r', 'o', 'w'] then g.throwStatement
  else if word = ['d', 'e', 'b', 'u', 'g', 'g', 'e', 'r'] then
    node .debuggerStatement (keyword word >> semicolon false)
  else if word = ['i', 'm', 'p', 'o', 'r', 't'] then
    followedBy (keyword word >> past .plain >> (mark ['('] <|> mark ['.'] <|> mark ['?'])) >>
        g.expressionStatement <|> g.importStatement
  else if word = ['e', 'x', 'p', 'o', 'r', 't'] then
    notFollowedBy labelAhead >> g.exported <|> followedBy labelAhead >> g.labeledStatement alone
  else if word = ['c', 'l', 'a', 's', 's'] || word = ['f', 'u', 'n', 'c', 't', 'i', 'o', 'n'] then
    g.functionOrClassStatement alone
  else if word = ['a', 's', 'y', 'n', 'c'] then
    startsFunction (.after true) >> g.functionOrClassStatement alone <|>
      notFollowedBy (startsFunction (.after true)) >> g.otherStatement alone
  else g.otherStatement alone

/-- A statement. -/
def statement (alone : Bool) : Rule := pick fun c =>
  match c.rest with
  | '{' :: _ => g.braceStatement alone
  | ';' :: _ => node .emptyStatement (mark [';'])
  | '@' :: _ =>
    let isExport := g.decorators >> keyword ['e', 'x', 'p', 'o', 'r', 't']
    followedBy isExport >> g.exportDeclaration .inner <|>
      notFollowedBy isExport >> g.functionOrClassStatement alone
  | _ => g.wordStatement alone

/-- Statements in braces. -/
def block (operand : Bool) : Rule :=
  node .block
    (mark ['{'] >> many (past .plain >> g (.statement false)) >> symbol .plain ['}'] >>
      mayEnd operand)

end ScriptStyle.Grammar
