import ScriptStyle.Syntax.Grammar.Goal

/-!
# Functions, methods and classes

What a function, a method and a class look like does not depend on whether they stand for a
statement or for a value; the callers choose the kind of node and whether a name is demanded.

In front of the name of a method, words such as `get` are modifiers only if the name is still to
come. Between the members of a class a line break may act as a semicolon, which turns the word
before it into a field.
-/

namespace ScriptStyle.Grammar

open Rule

variable (g : Grammar)

/-- A function after its name, with the gap before its parameters. -/
def signature (gap : Gap) (operand : Bool) : Rule :=
  past gap >> g.parameters >> past .plain >> g (.block operand)

/-- A function; `name` reads the gap before the name and the name. -/
def functionWith (name : Rule) (operand : Bool) : Rule :=
  optional (keyword ['a', 's', 'y', 'n', 'c'] >> past .inner) >>
    keyword ['f', 'u', 'n', 'c', 't', 'i', 'o', 'n'] >> optional (symbol .plain ['*']) >>
    name >> g.signature .plain operand

/-- What a decorator calls: a name, the parts of a module, and the values it is called with. -/
def decorator : Rule :=
  node .decorator
    (mark ['@'] >> past .plain >> anyWord .name >>
      many (symbol .plain ['.'] >> past .plain >> anyWord .property) >>
      optional (past .plain >> g.arguments))

/-- Decorators, each with the gap after it. -/
def decorators : Rule := many (g.decorator >> past .plain)

/-- The name of a property may begin here. -/
def startsName (c : Cursor) : Bool :=
  0 < Lexeme.word c.rest || 0 < Lexeme.number c.rest ||
    ['"', '\'', '[', '#'].any fun q => c.rest.head? == some q

/-- A word in front of a name, with the gap after it. -/
def modifier (gap : Gap) (word : List Char) (follows : Cursor → Bool) : Rule :=
  optional (keyword word >> past gap >> check follows)

/-- The characters of `static get` with the line break after it, which are one lexeme. -/
def staticGetLine (cs : List Char) : Nat :=
  if cs.take 6 = ['s', 't', 'a', 't', 'i', 'c'] then
    let rest := cs.drop 6
    let n := Lexeme.run Characters.isSpace rest
    let rest := rest.drop n
    if 0 < n && rest.take 3 = ['g', 'e', 't'] then
      let gap := (rest.drop 3).takeWhile Characters.isSpace
      let lines := (gap.reverse.dropWhile (· != '\n')).length
      if 0 < lines then 6 + n + 3 + lines else 0
    else 0
  else 0

/-- The words and the star in front of the name of a method, and the name; `gap` is the one behind
a word that could be the name itself. -/
def methodName (gap : Gap) : Rule :=
  let starOrName := fun c => c.rest.head? == some '*' || startsName c
  let isStatic := keyword ['s', 't', 'a', 't', 'i', 'c'] >> past gap >> check starOrName
  let isAsync := keyword ['a', 's', 'y', 'n', 'c'] >> past gap >> check starOrName
  let accessor (gap : Gap) : Rule :=
    (keyword ['g', 'e', 't'] <|> keyword ['s', 'e', 't']) >> past gap >> check startsName
  let star := mark ['*'] >> past .plain
  let owned := oneOf
    [isAsync >> optional (star <|> accessor .plain) >> g.propertyName >> past .plain,
      (star <|> accessor gap) >> g.propertyName >> past .plain,
      g.propertyName >> past gap]
  lexeme .punctuator staticGetLine >> past .plain >> owned <|> optional isStatic >> owned

/-- A method. -/
def method (gap : Gap) : Rule :=
  node .methodDefinition
    (g.decorators >> g.methodName gap >> g.parameters >> past .plain >> g (.block false))

/-- A field with its initial value. -/
def field : Rule :=
  check (fun c => staticGetLine c.rest = 0) >>
  node .fieldDefinition
    (g.decorators >> check (fun c => staticGetLine c.rest = 0) >>
      modifier .closing ['s', 't', 'a', 't', 'i', 'c'] startsName >> g.propertyName >>
      optional (g.initializer .closing true))

/-- A member of a class. -/
def member : Rule :=
  oneOf
    [mark [';'],
      node .staticBlock
        (keyword ['s', 't', 'a', 't', 'i', 'c'] >> mayEnd false >> past .plain >>
          check (fun c => c.rest.head? == some '{') >> g (.block false)),
      g.method .closing >> optional (symbol .plain [';']),
      g.field >> (pick fun c =>
        semicolon (c.top?.any fun t => t.children.any (·.isLexeme .punctuator ['='])))]

/-- The members of a class. -/
def classBody : Rule :=
  node .classBody (mark ['{'] >> many (past .plain >> g.member) >> symbol .plain ['}'])

/-- A class; `name` reads the gap before the name and the name. -/
def classWith (name : Rule) : Rule :=
  keyword ['c', 'l', 'a', 's', 's'] >> name >>
    optional
      (past .plain >>
        node .classHeritage
          (keyword ['e', 'x', 't', 'e', 'n', 'd', 's'] >> past .plain >> g.value false .any)) >>
    past .plain >> g.classBody

/-- The name of a function. -/
def functionName : Rule := past .plain >> anyWord .name

/-- The name of a class, which its base class may follow at once. -/
def className : Rule :=
  past .plain >> check (·.word != ['e', 'x', 't', 'e', 'n', 'd', 's']) >> anyWord .name

end ScriptStyle.Grammar
