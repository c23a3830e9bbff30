import ScriptStyle.Syntax.Grammar.Goal

/-!
# Markup

An element of markup is an expression. Between its tags, text runs up to the next bracket, brace or
reference; within a tag, blanks and comments separate names and attributes as everywhere else. The
name of a closing tag need not be the name of the opening one.
-/

namespace ScriptStyle.Grammar

open Rule

variable (g : Grammar)

/-- An expression in braces, which may be absent. -/
def markupExpression : Rule :=
  node .markupExpression
    (mark ['{'] >> optional (past .plain >> (g.spread <|> g.sequence false)) >> symbol .inner ['}'])

/-- A name with or without hyphens, as a leaf of the given kind. -/
def markupWord (kind : LeafKind) : Rule :=
  lexeme kind fun cs => max (Lexeme.hyphenated cs) (Lexeme.word cs)

/-- A second part of a name after a separator. -/
def namePart (separator : List Char) (part : Rule) : Rule :=
  symbol .plain separator >> past .plain >> part

/-- The name of a tag: a word, a path of words, or a word in a namespace. -/
def tagName : Rule :=
  markupWord .name >>
    (namePart [':'] (markupWord .name) <|>
      (many (check (fun c => c.top?.any fun t => !t.text.contains '-') >>
        namePart ['.'] (anyWord .property))))

/-- An attribute with or without a value. -/
def tagAttribute : Rule :=
  node .markupAttribute
    ((markupWord .name >> namePart [':'] (markupWord .name) <|> markupWord .property) >>
      optional
        (symbol .plain ['='] >> past .plain >>
          oneOf [lexeme .string Lexeme.attributeString, g.markupExpression, g .markup]))

/-- What may stand between two tags. -/
def markupChild : Rule :=
  oneOf
    [lexeme .string Lexeme.markupText,
      optional (lexeme .blank Lexeme.blanks) >> lexeme .comment Lexeme.markupComment,
      past .plain >> oneOf
        [lexeme .string Lexeme.characterReference,
          check (fun c => (c.rest.drop 1).head? != some '/') >> g .markup, g.markupExpression]]

/-- The children of an element and its closing tag. -/
def markupRest : Rule :=
  symbol .plain ['>'] >> many g.markupChild >> symbol .plain ['<', '/'] >>
    optional (past .plain >> tagName) >> symbol .plain ['>']

/-- An element of markup. -/
def markupElement : Rule :=
  node .markup
    (mark ['<'] >>
      ((past .plain >> tagName >> many (past .plain >> (g.tagAttribute <|> g.markupExpression)) >>
          (symbol .plain ['/', '>'] <|> g.markupRest)) <|>
        g.markupRest))

end ScriptStyle.Grammar
