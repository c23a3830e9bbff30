import ScriptStyle.Syntax.Grammar.Expression

/-!
# Imports and exports

A module names what it takes from other modules and what it gives away. The words `from`, `as` and
`default` have a meaning only in these clauses.
-/

namespace ScriptStyle.Grammar

open Rule

variable (g : Grammar)

/-- The word `from` and the module that it names. -/
def source : Rule :=
  wordAfter .plain ['f', 'r', 'o', 'm'] >> past .plain >> lexeme .string Lexeme.string

/-- A new name after the word `as`. -/
def renamed (name : Rule) : Rule := wordAfter .plain ['a', 's'] >> past .plain >> name

/-- A name in a clause, which may be quoted. -/
def clauseName : Rule := anyWord .name <|> lexeme .string Lexeme.string

/-- Names in braces, with a comma allowed after the last. -/
def clause (name : Rule) : Rule :=
  mark ['{'] >> optional (past .plain >> commaSeparated (fun _ => .plain) name) >>
    optional (symbol .plain [',']) >> symbol .plain ['}']

/-- The names that an import takes. -/
def importClause : Rule :=
  let everything := mark ['*'] >> renamed (anyWord .name)
  let listed := clause (clauseName >> renamed (anyWord .name) <|> anyWord .name)
  node .importClause
    (oneOf
      [everything, listed,
        anyWord .name >> optional (symbol .plain [','] >> past .plain >> (everything <|> listed))])

/-- An import. -/
def importStatement : Rule :=
  node .importStatement
    (keyword ['i', 'm', 'p', 'o', 'r', 't'] >> past .plain >>
      (lexeme .string Lexeme.string <|> importClause >> source) >>
      optional (wordAfter .closing ['w', 'i', 't', 'h'] >> past .plain >> g .object) >>
      semicolon false)

/-- The names that an export gives away. -/
def exportClause : Rule :=
  let listed := node .exportClause (clause (clauseName >> optional (renamed clauseName)))
  oneOf
    [node .exportClause (mark ['*'] >> renamed clauseName) >> source,
      mark ['*'] >> source,
      listed >> optional (wordAfter .closing ['f', 'r', 'o', 'm'] >> past .plain >>
        lexeme .string Lexeme.string)] >>
    semicolon false

end ScriptStyle.Grammar
