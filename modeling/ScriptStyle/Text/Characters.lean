/-!
# Classes of characters

Script text uses several classes of white space that differ only outside ASCII. `isSpace` is the
ASCII class that decides about automatic semicolons, `isBlank` is what may stand between two
lexemes, and `isWhiteSpace` is the Unicode property that decides whether a line is empty.
-/

namespace ScriptStyle.Characters

/-- ASCII white space: space, tab, line feed, vertical tab, form feed and carriage return. -/
def isSpace (c : Char) : Bool :=
  c = ' ' || (9 ≤ c.toNat && c.toNat ≤ 13)

/-- The characters that end a line for the purposes of comments and semicolons. -/
def isLineEnd (c : Char) : Bool :=
  c = '\n' || c.toNat = 0x2028 || c.toNat = 0x2029

/-- The property `Zs`: space separators. -/
def isSpaceSeparator (c : Char) : Bool :=
  let n := c.toNat
  n = 0x20 || n = 0xA0 || n = 0x1680 || (0x2000 ≤ n && n ≤ 0x200A) || n = 0x202F || n = 0x205F ||
    n = 0x3000

/-- White space between two lexemes: ASCII white space, space separators, the line and paragraph
separators, and the invisible joiners that editors leave behind. -/
def isBlank (c : Char) : Bool :=
  let n := c.toNat
  isSpace c ||
    (128 ≤ n && (isSpaceSeparator c || n = 0xFEFF || n = 0x2028 || n = 0x2029 || n = 0x2060 ||
      n = 0x200B))

/-- The Unicode property `White_Space`. -/
def isWhiteSpace (c : Char) : Bool :=
  let n := c.toNat
  isSpace c ||
    (128 ≤ n && (isSpaceSeparator c || n = 0x85 || n = 0x2028 || n = 0x2029))

/-- An ASCII digit. -/
def isDigit (c : Char) : Bool := c.isDigit

/-- A hexadecimal digit. -/
def isHexDigit (c : Char) : Bool :=
  c.isDigit || ('a' ≤ c && c ≤ 'f') || ('A' ≤ c && c ≤ 'F')

/-- An octal digit. -/
def isOctalDigit (c : Char) : Bool := '0' ≤ c && c ≤ '7'

/-- An ASCII letter. -/
def isLetter (c : Char) : Bool := c.isAlpha

/-- A character that may stand anywhere in a name but at its beginning only if it is no digit:
everything but control characters, blanks and the ASCII punctuation of the language. -/
def isNamePart (c : Char) : Bool :=
  let n := c.toNat
  if n < 128 then c.isAlphanum || c = '_' || c = '$' || n = 127
  else !isBlank c

/-- A character that may begin a name. -/
def isNameStart (c : Char) : Bool := isNamePart c && !c.isDigit

end ScriptStyle.Characters
