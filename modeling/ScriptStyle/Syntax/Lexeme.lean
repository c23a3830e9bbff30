import ScriptStyle.Text.Characters

/-!
# Lexemes

Every function here measures how many characters at the head of a text form one lexeme of a given
class, and answers zero when none does. A measure never looks at what came before, and takes the
longest lexeme of its class, so the grammar decides by context which class to ask for.

Words are read whole before they are compared with keywords: a keyword is never a proper beginning
of a longer name.
-/

namespace ScriptStyle.Lexeme

open Characters

/-- The length of the longest run of steps, where `step` measures one step and zero ends the run. -/
def repeated (step : List Char → Nat) : Nat → List Char → Nat
  | 0, _ => 0
  | fuel + 1, cs =>
    match step cs with
    | 0 => 0
    | n + 1 => n + 1 + repeated step fuel (cs.drop (n + 1))

/-- The length of the longest run of characters that satisfy `p`. -/
def run (p : Char → Bool) (cs : List Char) : Nat := (cs.takeWhile p).length

/-! ## Trivia -/

/-- A run of blanks. -/
def blanks (cs : List Char) : Nat := run isBlank cs

/-- The characters up to and with the first `*/`. -/
def blockEnd : List Char → Option Nat
  | [] => none
  | '*' :: '/' :: _ => some 2
  | _ :: cs => (blockEnd cs).map (· + 1)

/-- A comment that runs to the end of the line or to its closing mark. A carriage return ends a
line comment too. -/
def comment : List Char → Nat
  | '/' :: '/' :: cs => 2 + run (fun c => !isLineEnd c && c != '\r') cs
  | '/' :: '*' :: cs => (blockEnd cs).elim 0 (· + 2)
  | _ => 0

/-- A line that opens with one of the comment marks of markup. -/
def markupComment : List Char → Nat
  | '<' :: '!' :: '-' :: '-' :: cs => 4 + run (fun c => !isLineEnd c) cs
  | '-' :: '-' :: '>' :: cs => 3 + run (fun c => !isLineEnd c) cs
  | _ => 0

/-- The line that names the interpreter of a script. -/
def interpreterLine : List Char → Nat
  | '#' :: '!' :: cs => 2 + run (· != '\n') cs
  | _ => 0

/-! ## Names -/

/-- A character written by its code: four hexadecimal digits, or any number of them in braces. -/
def codeEscape : List Char → Nat
  | '\\' :: 'u' :: '{' :: cs =>
    let n := run isHexDigit cs
    if 0 < n && (cs.drop n).head? == some '}' then n + 4 else 0
  | '\\' :: 'u' :: cs => if run isHexDigit (cs.take 4) = 4 then 6 else 0
  | _ => 0

/-- One character of a name, or its escape. -/
def namePart : List Char → Nat
  | [] => 0
  | c :: cs => if isNamePart c then 1 else codeEscape (c :: cs)

/-- A word: a name or a keyword. -/
def word : List Char → Nat
  | [] => 0
  | c :: cs =>
    if c.isDigit then 0
    else
      let n := run isNamePart (c :: cs)
      match (c :: cs).drop n with
      | '\\' :: rest => n + repeated namePart (rest.length + 1) ('\\' :: rest)
      | _ => n

/-- A private name. -/
def privateName : List Char → Nat
  | '#' :: cs => match word cs with
    | 0 => 0
    | n + 1 => n + 2
  | _ => 0

/-- A name with a hyphen, as tags and attributes of markup have. -/
def hyphenated (cs : List Char) : Nat :=
  let first := fun c => isLetter c || c = '_' || c = '$'
  let part := fun c => first c || isDigit c
  match cs.head? with
  | none => 0
  | some c =>
    let n := run part cs
    if first c && (cs.drop n).head? == some '-' then
      n + run (fun c => part c || c = '-') (cs.drop n)
    else 0

/-! ## Numbers -/

/-- Further digits, each of which one underscore may precede. -/
def moreDigits (p : Char → Bool) : List Char → Nat
  | '_' :: d :: cs => if p d then moreDigits p cs + 2 else 0
  | d :: cs => if p d then moreDigits p cs + 1 else 0
  | [] => 0

/-- Digits that single underscores may separate. -/
def digits (p : Char → Bool) : List Char → Nat
  | c :: cs => if p c then moreDigits p cs + 1 else 0
  | [] => 0

/-- The power of ten of a decimal number. -/
def exponent : List Char → Nat
  | c :: cs =>
    if c = 'e' || c = 'E' then
      match cs with
      | s :: ds =>
        if s = '+' || s = '-' then
          match digits isDigit ds with
          | 0 => 0
          | n + 1 => n + 3
        else match digits isDigit cs with
          | 0 => 0
          | n + 1 => n + 2
      | [] => 0
    else 0
  | [] => 0

/-- The whole part that a fraction or an exponent may follow: zero, or digits of which the first,
or the second after a zero, is not zero. -/
def wholePart (cs : List Char) : Nat :=
  let positive := fun (c : Char) => c.isDigit && c != '0'
  let tail (rest : List Char) : Nat :=
    match rest with
    | '_' :: ds => match digits isDigit ds with
      | 0 => 0
      | n + 1 => n + 2
    | ds => digits isDigit ds
  match cs with
  | '0' :: c :: rest => if positive c then 2 + tail rest else 1
  | c :: rest => if c = '0' then 1 else if positive c then 1 + tail rest else 0
  | [] => 0

/-- A literal in base two, eight or sixteen. -/
def radixNumber : List Char → Nat
  | '0' :: x :: cs =>
    let n :=
      if x = 'x' || x = 'X' then digits isHexDigit cs
      else if x = 'b' || x = 'B' then digits (fun c => c = '0' || c = '1') cs
      else if x = 'o' || x = 'O' then digits isOctalDigit cs
      else 0
    if n = 0 then 0 else n + 2
  | _ => 0

/-- A decimal literal: plain digits, a whole part with a fraction or an exponent, or a bare
fraction. -/
def decimalNumber (cs : List Char) : Nat :=
  let fraction : Nat :=
    match cs with
    | '.' :: ds => match digits isDigit ds with
      | 0 => 0
      | n + 1 => n + 2 + exponent (ds.drop (n + 1))
    | _ => 0
  let whole := wholePart cs
  let rest := cs.drop whole
  let pointed : Nat :=
    match whole, rest with
    | 0, _ => 0
    | n + 1, '.' :: ds =>
      let m := digits isDigit ds
      n + 2 + m + exponent (ds.drop m)
    | n + 1, _ => match exponent rest with
      | 0 => 0
      | m + 1 => n + 1 + (m + 1)
  max fraction (max pointed (digits isDigit cs))

/-- A number: the longest reading wins. -/
def number (cs : List Char) : Nat :=
  let whole := max (radixNumber cs) (digits isDigit cs)
  let big := if 0 < whole && (cs.drop whole).head? == some 'n' then whole + 1 else 0
  max big (max (radixNumber cs) (decimalNumber cs))

/-! ## Operators -/

/-- The operators, longer ones before their own beginnings. -/
def operators : List (List Char) :=
  [['>', '>', '>', '='], ['.', '.', '.'], ['=', '=', '='], ['!', '=', '='], ['*', '*', '='],
    ['<', '<', '='], ['>', '>', '='], ['>', '>', '>'], ['&', '&', '='], ['|', '|', '='],
    ['?', '?', '='], ['=', '>'], ['=', '='], ['!', '='], ['<', '='], ['>', '='], ['&', '&'],
    ['|', '|'], ['?', '?'], ['?', '.'], ['+', '+'], ['-', '-'], ['+', '='], ['-', '='],
    ['*', '='], ['/', '='], ['%', '='], ['&', '='], ['|', '='], ['^', '='], ['<', '<'],
    ['>', '>'], ['*', '*'], ['='], ['<'], ['>'], ['+'], ['-'], ['*'], ['/'], ['%'], ['&'], ['|'],
    ['^'], ['!'], ['~'], ['?'], ['.']]

/-- An operator. -/
def operator (cs : List Char) : Nat :=
  ((operators.find? (·.isPrefixOf cs)).map List.length).getD 0

/-! ## Quoted text -/

/-- An escape in a string or a template. A line break may be escaped, also one of two
characters. -/
def escape : List Char → Nat
  | '\\' :: c :: cs =>
    if c = 'x' then (if run isHexDigit (cs.take 2) = 2 then 4 else 0)
    else if c = 'u' then codeEscape ('\\' :: c :: cs)
    else if isOctalDigit c then 1 + run isOctalDigit (c :: cs.take 2)
    else if (c = '\r' || c = '?') && cs.head?.any isLineEnd then 3
    else 2
  | _ => 0

/-- The rest of a string after its opening quote, with the closing one. Text may not contain a line
break; after one, only blanks and comments may stand before the closing quote. -/
def stringRest (quote : Char) : Nat → List Char → Option Nat
  | 0, _ => none
  | _ + 1, [] => none
  | fuel + 1, c :: cs =>
    if c = quote then some 1
    else if c = '\\' then
      match escape (c :: cs) with
      | 0 => none
      | n + 1 => (stringRest quote fuel (cs.drop n)).map (· + (n + 1))
    else if c != '\n' && c != '\r' then (stringRest quote fuel cs).map (· + 1)
    else
      let n := blanks (c :: cs)
      let rest := (c :: cs).drop n
      if rest.head? == some quote then some (n + 1)
      else match comment rest with
        | 0 => none
        | m + 1 => (stringRest quote fuel (rest.drop (m + 1))).map (· + (n + (m + 1)))

/-- A string in single or double quotes. -/
def string : List Char → Nat
  | c :: cs =>
    if c = '"' || c = '\'' then (stringRest c (cs.length + 1) cs).elim 0 (· + 1) else 0
  | [] => 0

/-- A piece of a template literal: everything up to an escape, a substitution or the closing
mark. A piece that the end of the text cuts off is none. -/
def templateChars : List Char → Option Nat
  | [] => none
  | '\\' :: _ => some 0
  | '$' :: '{' :: _ => some 0
  | c :: cs => if c.toNat = 96 then some 0 else (templateChars cs).map (· + 1)

/-- One piece of a regular expression: a bracketed class, an escape or a plain character. -/
def regexPart : List Char → Nat
  | '[' :: cs =>
    let part : List Char → Nat
      | '\\' :: c :: _ => if c = '\n' then 0 else 2
      | c :: _ => if c = ']' || c = '\n' || c = '\\' then 0 else 1
      | [] => 0
    let n := repeated part cs.length cs
    if (cs.drop n).head? == some ']' then n + 2 else 0
  | '\\' :: c :: _ => if c = '\n' then 0 else 2
  | c :: _ => if c = '/' || c = '\\' || c = '\n' then 0 else 1
  | [] => 0

/-- Blanks and comments of which the last is a comment. -/
def comments (cs : List Char) : Nat :=
  let one := fun cs =>
    let n := blanks cs
    match comment (cs.drop n) with
    | 0 => 0
    | m + 1 => n + (m + 1)
  repeated one cs.length cs

/-- A regular expression with its delimiters and flags. Comments may stand between the expression
and its closing mark, and between the mark and the flags. -/
def regex : List Char → Nat
  | '/' :: cs =>
    match repeated regexPart cs.length cs with
    | 0 => 0
    | n + 1 =>
      let gap := if (cs.drop (n + 1)).head? == some '/' then 0 else comments (cs.drop (n + 1))
      match cs.drop (n + 1 + gap) with
      | '/' :: rest =>
        let isFlag := fun (c : Char) => 'a' ≤ c && c ≤ 'z'
        let closed := n + 3 + gap
        let skipped := if rest.head?.any isFlag then 0 else comments rest
        match run isFlag (rest.drop skipped) with
        | 0 => closed
        | m + 1 => closed + skipped + (m + 1)
      | _ => 0
  | _ => 0

/-! ## Markup -/

/-- A character reference such as `&amp;`. -/
def characterReference : List Char → Nat
  | '&' :: '#' :: x :: cs =>
    let n :=
      if x = 'x' || x = 'X' then
        let n := run isHexDigit cs
        if 1 ≤ n && n ≤ 6 then n + 1 else 0
      else
        let n := run isDigit (x :: cs)
        if n ≤ 5 then n else 0
    if 0 < n && ((x :: cs).drop n).head? == some ';' then n + 3 else 0
  | '&' :: cs =>
    let n := run isLetter cs
    if 1 ≤ n && n ≤ 30 && (cs.drop n).head? == some ';' then n + 2 else 0
  | _ => 0

/-- The rest of a quoted attribute value, with the closing quote. -/
def attributeRest (quote : Char) : Nat → List Char → Option Nat
  | 0, _ => none
  | _ + 1, [] => none
  | fuel + 1, c :: cs =>
    if c = quote then some 1
    else if c = '&' then
      match characterReference (c :: cs) with
      | n + 1 => (attributeRest quote fuel (cs.drop n)).map (· + (n + 1))
      | 0 => match cs with
        | d :: ds =>
          if d = '#' || isLetter d then none
          else (attributeRest quote fuel ds).map (· + 2)
        | [] => none
    else (attributeRest quote fuel cs).map (· + 1)

/-- A quoted attribute value. -/
def attributeString : List Char → Nat
  | c :: cs =>
    if c = '"' || c = '\'' then (attributeRest c (cs.length + 1) cs).elim 0 (· + 1) else 0
  | [] => 0

/-- The text between two tags: everything up to a bracket, a brace or a reference. A run that holds
nothing but line breaks and the blanks that follow them is no text. -/
def markupText (cs : List Char) : Nat :=
  let chars := cs.takeWhile fun c =>
    !(c = '<' || c = '>' || c = '{' || c = '}' || c = '&')
  let scan := fun (seen, atBreak) (c : Char) =>
    if c = '\n' then (seen, true)
    else
      let atBreak := atBreak && isSpace c
      (seen || !atBreak, atBreak)
  if (chars.foldl scan (false, false)).1 then chars.length else 0

end ScriptStyle.Lexeme
