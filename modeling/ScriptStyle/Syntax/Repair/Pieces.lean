import ScriptStyle.Syntax.Grammar.Expression
import ScriptStyle.Text.Basic

/-!
# The lexemes of a damaged text

The grammar asks for lexemes by context. Where it can read no further there is none, so a damaged
text is cut into lexemes by what they look like. Whether a slash divides or opens a regular
expression is told from the lexeme before it. What opens a string or a regular expression that has
no end goes on to the end of its line.
-/

namespace ScriptStyle.Repair

/-- A lexeme of a damaged text. -/
structure Piece where
  /-- The number of characters before it. -/
  start : Nat
  /-- Its characters. -/
  chars : Text
  /-- It is a comment. -/
  isComment : Bool
  /-- It opens something that has no end. -/
  isOpen : Bool
  /-- An operator could follow it. -/
  isOperand : Bool
deriving Inhabited

namespace Piece

/-- The number of characters up to its end. -/
def stop (p : Piece) : Nat := p.start + p.chars.length

/-- It is this mark or word. -/
def isLexeme (p : Piece) (spelling : String) : Bool := p.chars = spelling.toList

/-- It is one of some marks or words. -/
def isAmong (p : Piece) (spellings : List String) : Bool := spellings.any p.isLexeme

/-- It opens a bracket. -/
def opens (p : Piece) : Bool := p.isAmong ["(", "[", "\x7b"]

/-- It closes a bracket. -/
def closes (p : Piece) : Bool := p.isAmong [")", "]", "\x7d"]

/-- No lexeme looks like it. -/
def isUnknown (p : Piece) : Bool := p.isAmong ["#", "\\", "?"]

end Piece

/-- The words that an operand follows. -/
def operandWords : List (List Char) :=
  Word.operators ++ Word.relations ++
    [['r', 'e', 't', 'u', 'r', 'n'], ['t', 'h', 'r', 'o', 'w'], ['c', 'a', 's', 'e'], ['d', 'o'],
      ['e', 'l', 's', 'e'], ['n', 'e', 'w'], ['a', 'w', 'a', 'i', 't'], ['y', 'i', 'e', 'l', 'd'],
      ['e', 'x', 't', 'e', 'n', 'd', 's']]

/-- The characters up to the end of the line. -/
def toLineEnd (cs : Text) : Nat := Lexeme.run (fun c => c != '\n' && c != '\r') cs

/-- A lexeme of some length, or an open one to the end of the line if there is none. -/
def closedOr (start length : Nat) (cs : Text) : Piece :=
  if length = 0 then ⟨start, cs.take (toLineEnd cs), false, true, true⟩
  else ⟨start, cs.take length, false, false, true⟩

/-- The first lexeme of a text that begins with one. -/
def firstPiece (start : Nat) (afterOperand : Bool) (cs : Text) : Piece :=
  let word := max (Lexeme.word cs) (Lexeme.privateName cs)
  let plain (n : Nat) (isOperand : Bool) : Piece := ⟨start, cs.take n, false, false, isOperand⟩
  let c := cs.head?.getD ' '
  if word ≠ 0 then plain word (!operandWords.contains (cs.take word))
  else if Lexeme.number cs ≠ 0 then plain (Lexeme.number cs) true
  else if c = '"' || c = '\'' then closedOr start (Lexeme.string cs) cs
  else if c.toNat = 96 then
    match cs.tail.findIdx? (·.toNat = 96) with
    | some n => plain (n + 2) true
    | none => plain 1 false
  else if c = '/' && !afterOperand then closedOr start (Lexeme.regex cs) cs
  else
    let operator := Lexeme.operator cs
    if operator ≠ 0 then
      plain operator (afterOperand && [['+', '+'], ['-', '-']].contains (cs.take operator))
    else plain 1 (c = ')' || c = ']' || c.toNat = 125)

/-- The lexemes of a text, comments among them. -/
def piecesFrom : Nat → Nat → Bool → Text → List Piece
  | 0, _, _, _ => []
  | fuel + 1, offset, afterOperand, cs =>
    let blanks := Lexeme.blanks cs
    let start := offset + blanks
    let cs := cs.drop blanks
    if cs.isEmpty then []
    else
      let comment := Lexeme.comment cs
      if comment ≠ 0 then
        ⟨start, cs.take comment, true, false, afterOperand⟩ ::
          piecesFrom fuel (start + comment) afterOperand (cs.drop comment)
      else
        let p := firstPiece start afterOperand cs
        p :: piecesFrom fuel p.stop p.isOperand (cs.drop p.chars.length)

/-- The lexemes of a text. -/
def pieces (t : Text) : Array Piece := (piecesFrom (t.length + 1) 0 false t).toArray

end ScriptStyle.Repair
