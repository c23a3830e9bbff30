import ScriptStyle.Syntax.Rule
import ScriptStyle.Syntax.Binding

/-!
# The constructs that contain one another

Statements contain expressions and expressions contain statements. The rules of the grammar are
therefore written over a given reading of the goals below, a `Grammar`, and the knot is tied once,
where each reading of a goal may use the one before it.

Expressions are read by binding strength: a goal with level `n` leaves operators that bind more
weakly than `n` to the expression around it. Assignments, arrow functions and yields begin with an
operand and extend as far as they can wherever they stand.
-/

namespace ScriptStyle

/-- The binding strength of an operator; stronger ones have larger numbers. -/
abbrev Level := Nat

namespace Level

/-- Every operator but the comma. -/
def any : Level := 2
/-- The choice between two values and the default for an absent one. -/
def choice : Level := 2
/-- Comparisons by order, class and membership. -/
def relation : Level := 9
/-- The power. -/
def power : Level := 14
/-- Increments and decrements, and what may stand below a sign. -/
def update : Level := 16
/-- Calls. -/
def call : Level := 17

end Level

/-- What a rule may ask for at the cursor. All goals begin at a lexeme. -/
inductive Goal where
  /-- One statement. Set `alone` where no other statement can follow it. -/
  | statement (alone : Bool)
  /-- Statements in braces. Set `operand` where an operator could follow the closing brace. -/
  | block (operand : Bool)
  /-- An expression whose operators bind at least as strongly as `level`, or a list that only
  binds. Set `tail` where the expression may end its statement. -/
  | expression (tail : Bool) (level : Level)
  /-- A list in braces as an object or a pattern. -/
  | object
  /-- A construction with the word `new`. -/
  | construction (tail : Bool)
  /-- An element of markup. -/
  | markup
deriving DecidableEq

/-- A reading of every goal. -/
abbrev Grammar := Goal → Rule

namespace Word

/-- The words that are names wherever they are not part of a construct of their own. -/
def contextual : List (List Char) :=
  [['g', 'e', 't'], ['s', 'e', 't'], ['a', 's', 'y', 'n', 'c'], ['s', 't', 'a', 't', 'i', 'c'],
    ['e', 'x', 'p', 'o', 'r', 't'], ['l', 'e', 't']]

/-- The words that are values by themselves. -/
def values : List (List Char) :=
  [['t', 'h', 'i', 's'], ['s', 'u', 'p', 'e', 'r'], ['t', 'r', 'u', 'e'],
    ['f', 'a', 'l', 's', 'e'], ['n', 'u', 'l', 'l'],
    ['u', 'n', 'd', 'e', 'f', 'i', 'n', 'e', 'd']]

/-- The words that are operators before an operand. -/
def operators : List (List Char) :=
  [['t', 'y', 'p', 'e', 'o', 'f'], ['v', 'o', 'i', 'd'], ['d', 'e', 'l', 'e', 't', 'e']]

/-- The words that name no variable where an expression begins. -/
def reserved : List (List Char) :=
  values ++ operators ++
    [['f', 'u', 'n', 'c', 't', 'i', 'o', 'n'], ['c', 'l', 'a', 's', 's'], ['n', 'e', 'w'],
      ['a', 'w', 'a', 'i', 't'], ['y', 'i', 'e', 'l', 'd'], ['i', 'm', 'p', 'o', 'r', 't']]

/-- The words that begin a statement and nothing else. -/
def statements : List (List Char) :=
  [['v', 'a', 'r'], ['c', 'o', 'n', 's', 't'], ['i', 'f'], ['s', 'w', 'i', 't', 'c', 'h'],
    ['f', 'o', 'r'], ['w', 'h', 'i', 'l', 'e'], ['d', 'o'], ['t', 'r', 'y'], ['w', 'i', 't', 'h'],
    ['b', 'r', 'e', 'a', 'k'], ['c', 'o', 'n', 't', 'i', 'n', 'u', 'e'],
    ['r', 'e', 't', 'u', 'r', 'n'], ['t', 'h', 'r', 'o', 'w'],
    ['d', 'e', 'b', 'u', 'g', 'g', 'e', 'r']]

/-- The words that stand between two operands. -/
def relations : List (List Char) :=
  [['i', 'n'], ['i', 'n', 's', 't', 'a', 'n', 'c', 'e', 'o', 'f']]

end Word

namespace Rule

/-- A word that refers to a variable. -/
def variableName : Rule := check (fun c => !Word.reserved.contains c.word) >> anyWord .name

/-- Settles the list read last as a literal or a pattern. -/
def settle : Rule := reshape Tree.settled? Tree.text_of_settled?

end Rule

namespace Grammar

open Rule

variable (g : Grammar)

/-- An expression that is a value. -/
def value (tail : Bool) (level : Level) : Rule :=
  g (.expression tail level) >> onTop (!·.onlyBinds)

/-- Values with commas between. -/
def sequence (tail : Bool) : Rule :=
  g.value tail .any >> many (symbol (.after tail) [','] >> past .plain >> g.value tail .any)

/-- The rest of a list, or a list to be spread. -/
def spread : Rule :=
  node .spread (mark ['.', '.', '.'] >> past .plain >> g (.expression false .any))

/-- An element of a list. -/
def element : Rule := g.spread <|> g (.expression false .any)

/-- The word ahead is none of some words. -/
def otherWord (words : List (List Char)) : Rule := check fun c => !words.contains c.word

/-- The value that follows an equals sign. -/
def initializer (gap : Gap) (tail : Bool) : Rule :=
  past gap >> operator ['='] >> past .plain >> g.value tail .any

/-- The parameters of a function. -/
def parameters : Rule :=
  let parameter := g.element >> onTop (Tree.binds .element)
  node .parameters
    (mark ['('] >>
      optional (past .plain >> commaSeparated .inParameters parameter >>
        optional (symbolBehind .inParameters [','])) >>
      symbolBehind .inParameters [')'])

/-- The values that a function is called with. -/
def arguments : Rule :=
  node .arguments (mark ['('] >> withHoles g.element >> symbolBehind .inList [')']) >>
    onTop (!·.children.any Tree.forcesPattern)

/-- The name of a property, where one is defined. -/
def propertyName : Rule :=
  oneOf
    [anyWord .property, lexeme .property Lexeme.privateName, lexeme .string Lexeme.string,
      lexeme .number Lexeme.number,
      node .computedName
        (mark ['['] >> past .plain >> g.value false .any >> symbol .inner [']'])]

/-- A list in brackets that an equals sign or the word `of` may turn into a pattern. -/
def array : Rule :=
  node .array (mark ['['] >> withHoles g.element >> symbolBehind .inList [']']) >> settle

end Grammar

end ScriptStyle
