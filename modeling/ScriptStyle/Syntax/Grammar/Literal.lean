import ScriptStyle.Syntax.Grammar.Function

/-!
# Objects and templates

A property of an object is a pair, a method, a spread, or a name that stands for itself. A name
with a default value, and a nested list with one, occur in patterns only; `Tree.settled?` sorts
that out when the closing brace has been read.
-/

namespace ScriptStyle.Grammar

open Rule

variable (g : Grammar)

/-- The value of a property, or the target that it binds; `gap` is the one behind the name. -/
def propertyValue (gap : Gap) : Rule := symbol gap [':'] >> past .plain >> g.element

/-- The default value in a property of a pattern; `gap` is the one behind the target. -/
def propertyDefault (gap : Gap) : Rule :=
  past gap >> operator ['='] >> past .plain >> g.value false .any

/-- A property that begins with a word: a pair or a method of that name, a default, or the word
alone. -/
def wordProperty (gap : Gap) : Rule :=
  oneOf
    [node .methodDefinition
        (g.methodName gap >> check (fun d => d.rest.head? == some '(') >> g.parameters >>
          past .plain >> g (.block false)),
      node .pair (anyWord .property >> g.propertyValue gap),
      node .shorthandDefault (anyWord .shorthand >> g.propertyDefault gap),
      anyWord .shorthand]

/-- A property whose name is no word: a pair or a method. -/
def namedProperty (gap : Gap) : Rule :=
  g.propertyName >> (extend .pair (g.propertyValue gap) <|>
    extend .methodDefinition (g.signature .plain false))

/-- A property that begins with a list of targets and has a default value. -/
def listProperty (list : Rule) : Rule :=
  node .shorthandDefault (list >> onTop (Tree.binds .target) >> g.propertyDefault .inner)

/-- A property of an object or a pattern; `gap` is the one behind its first word. -/
def property (gap : Gap) : Rule := pick fun c =>
  match c.rest with
  | '.' :: '.' :: _ => g.spread
  | '@' :: _ | '*' :: _ => g.method .plain
  | '[' :: _ => g.namedProperty gap <|> g.listProperty g.array
  | '{' :: _ => g.listProperty (g .object)
  | _ => if c.word.isEmpty then g.namedProperty gap else g.wordProperty gap

/-- A list in braces that an equals sign or the word `of` may turn into a pattern. -/
def object : Rule :=
  node .object (mark ['{'] >> withHoles (g.property .plain) >> symbolBehind .inList ['}']) >> settle

/-- The first property of a list in braces where a block could stand instead: one that begins with
no word that a statement begins with, and that is more than a lone word. -/
def leadingProperty (tail : Bool) : Rule :=
  check (fun c => !Word.reserved.contains c.word && !Word.statements.contains c.word) >>
    g.property (.after tail) >> onTop (!·.isLeaf .shorthand)

/-- A list in braces where a block could stand instead. Behind its first word, a line break may end
a statement. -/
def leadingObject (tail : Bool) : Rule :=
  node .object
      (mark ['{'] >> optional (past .plain >> g.leadingProperty tail) >>
        many (symbolBehind .inList [','] >> optional (past .plain >> g.property .plain)) >>
        symbolBehind .inList ['}']) >>
    settle

/-- A piece of a template outside its substitutions. -/
def templatePiece : Rule :=
  lexeme .template (fun cs => (Lexeme.templateChars cs).getD 0) <|> lexeme .template Lexeme.escape

/-- An expression inside a template. -/
def substitution : Rule :=
  node .substitution (mark ['$', '\x7b'] >> past .plain >> g.sequence false >> symbol .inner ['}'])

/-- A template literal. -/
def template : Rule :=
  let quote := lexeme .template (spelled [Char.ofNat 96])
  node .template (quote >> many (templatePiece <|> g.substitution) >> quote)

end ScriptStyle.Grammar
