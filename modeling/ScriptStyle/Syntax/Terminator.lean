import ScriptStyle.Text.Characters

/-!
# Automatic semicolons

A statement may end without a semicolon before a closing brace, at the end of the text, and at a
line break unless the next line goes on with it. `Terminator.isAutomatic` decides this from the
characters that follow the last lexeme of the statement, blanks and comments included.

Comments are looked through. Where the statement so far cannot be continued by an operator, a
comment that spans or ends a line ends the statement on the spot, before the comment; otherwise
what follows the comment decides.
-/

namespace ScriptStyle.Terminator

open Characters

/-- What a run of blanks and comments amounts to. -/
inductive Passage where
  /-- A slash follows that opens no comment. -/
  | obstructed
  /-- A comment was passed that lies within one line. -/
  | sameLine (rest : List Char)
  /-- Everything was passed. -/
  | passed (rest : List Char)

/-- Passes a block comment after its opening mark. Answers whether it holds a line break, and what
follows it unless it is unclosed. -/
def blockRest : Bool → List Char → Bool × Option (List Char)
  | broken, [] => (broken, none)
  | broken, '*' :: '/' :: cs => (broken, some cs)
  | broken, c :: cs => blockRest (broken || isLineEnd c) cs

/-- Passes blanks and comments. Unless `throughout` is set, the run stops after the first block
comment that no slash follows. -/
def pass (throughout : Bool) : Nat → Bool → List Char → Passage
  | 0, _, _ => .obstructed
  | fuel + 1, broken, cs =>
    match cs.dropWhile isSpace with
    | '/' :: '/' :: rest => pass throughout fuel broken (rest.dropWhile (!isLineEnd ·))
    | '/' :: '*' :: rest =>
      match blockRest broken rest with
      | (_, none) => .passed []
      | (broken', some rest') =>
        if throughout || rest'.head? == some '/' then pass throughout fuel broken' rest'
        else if broken' then .passed rest' else .sameLine rest'
    | '/' :: _ => .obstructed
    | rest => .passed rest

/-- The characters after a line break do not continue a statement. -/
def startsAfresh : List Char → Bool
  | [] => true
  | '.' :: cs => cs.head?.any isDigit
  | '+' :: cs => cs.head? == some '+'
  | '-' :: cs => cs.head? == some '-'
  | '!' :: cs => cs.head? != some '='
  | 'i' :: 'n' :: c :: cs =>
    if !isLetter c then false
    else if (c :: cs).take 8 = ['s', 't', 'a', 'n', 'c', 'e', 'o', 'f'] then
      ((c :: cs).drop 8).head?.any isLetter
    else true
  | 'i' :: 'n' :: [] => false
  | c :: _ => !(c.toNat = 96 || [',', ':', ';', '*', '%', '>', '<', '=', '[', '(', '?', '^', '|',
      '&', '/'].contains c)

/-- What follows a line break begins something new. -/
def breaksOff (cs : List Char) : Bool :=
  match cs.dropWhile isSpace with
  | '/' :: rest =>
    match pass true (rest.length + 1) false ('/' :: rest) with
    | .passed rest | .sameLine rest => startsAfresh rest
    | .obstructed => false
  | rest => startsAfresh rest

/-- The decision after a comment; `atSlash` decides where another slash follows. -/
def afterComment (atSlash : List Char → Bool) : List Char → Bool
  | [] => false
  | c :: cs =>
    if c = '}' then true
    else if isLineEnd c then breaksOff cs
    else if isSpace c then
      match cs.dropWhile fun c => isSpace c && !isLineEnd c with
      | [] => true
      | '/' :: rest => atSlash ('/' :: rest)
      | c :: rest => if c = '}' then true else isLineEnd c && breaksOff rest
    else false

/-- The decision at a slash, with a bound on the number of comments that are looked at. -/
def throughComments (operand : Bool) : Nat → List Char → Bool
  | 0, _ => false
  | fuel + 1, cs =>
    let settle := afterComment (throughComments operand fuel)
    match pass false (cs.length + 1) false cs with
    | .obstructed => false
    | .sameLine rest => settle rest
    | .passed rest =>
      if !operand && rest.head? != some ',' && rest.head? != some '=' then true else settle rest

/-- Whether a statement may end, without a semicolon, before `cs`. Set `operand` when an operator
could continue the statement. -/
def isAutomatic (operand : Bool) (cs : List Char) : Bool :=
  match cs.dropWhile fun c => isSpace c && !isLineEnd c with
  | [] => true
  | '/' :: rest => throughComments operand (rest.length + 1) ('/' :: rest)
  | c :: rest => if c = '}' then true else isLineEnd c && breaksOff rest

end ScriptStyle.Terminator
