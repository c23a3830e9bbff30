import ScriptStyle.Pattern.Basic

/-!
# Modes of reading a pattern

Letters in parentheses change how the rest of a group is read. A mode holds what they say. Sets and
assertions are built under a mode, so a pattern that has been read needs none.

Without Unicode a pattern could match single bytes of a longer character. Everything that would do
so is refused.
-/

namespace ScriptStyle.Pattern

/-- How the rest of a group is read. -/
structure Mode where
  /-- Case does not count. -/
  ignoreCase : Bool := false
  /-- The line assertions look at lines instead of the whole text. -/
  multiLine : Bool := false
  /-- A dot matches line ends too. -/
  dotAll : Bool := false
  /-- A carriage return belongs to the end of a line. -/
  carriageReturns : Bool := false
  /-- Classes and case know ASCII alone. -/
  ascii : Bool := false
  /-- Blanks and comments do not count. -/
  verbose : Bool := false

namespace Mode

/-- The mode after a letter switches something on or off. Greed is no part of a mode because it
does not decide what matches. -/
def switch (m : Mode) (letter : Char) (on : Bool) : Option Mode :=
  match letter with
  | 'i' => some { m with ignoreCase := on }
  | 'm' => some { m with multiLine := on }
  | 's' => some { m with dotAll := on }
  | 'R' => some { m with carriageReturns := on }
  | 'u' => some { m with ascii := !on }
  | 'x' => some { m with verbose := on }
  | 'U' => some m
  | _ => none

/-- A set with the variants in case that the mode adds. -/
def fold (m : Mode) (s : CharacterSet) : CharacterSet :=
  if m.ignoreCase then if m.ascii then .asciiFolded s else .folded s else s

/-- A set or its complement, which must not be taken without Unicode. -/
def negate (m : Mode) (negated : Bool) (s : CharacterSet) : Option CharacterSet :=
  if negated then if m.ascii then none else some (.compl s) else some s

/-- What a dot matches. -/
def dot (m : Mode) : Option CharacterSet :=
  if m.ascii then none
  else if m.dotAll then some (.named .any)
  else if m.carriageReturns then some (.compl (.union (.singleton '\n') (.singleton '\r')))
  else some (.compl (.singleton '\n'))

/-- What a caret asserts. -/
def start (m : Mode) : Assertion :=
  if !m.multiLine then .textStart
  else if m.carriageReturns then .returnLineStart else .lineStart

/-- What a dollar sign asserts. -/
def stop (m : Mode) : Assertion :=
  if !m.multiLine then .textEnd
  else if m.carriageReturns then .returnLineEnd else .lineEnd

/-- Which characters are parts of words. -/
def word (m : Mode) : WordKind := if m.ascii then .ascii else .unicode

/-- The set behind the letter of a digit, space or word class. -/
def shorthand (m : Mode) (letter : Char) : CharacterSet :=
  match letter.toLower with
  | 'd' => if m.ascii then .range '0' '9' else .named .digit
  | 's' => if m.ascii then .ofRanges [('\t', '\r'), (' ', ' ')] else .named .space
  | _ =>
    if m.ascii then .ofRanges [('0', '9'), ('A', 'Z'), ('_', '_'), ('a', 'z')] else .named .word

end Mode

/-- The ASCII classes with a name between colons. -/
def asciiClasses : List (String × List (Char × Char)) := [
  ("alnum", [('0', '9'), ('A', 'Z'), ('a', 'z')]),
  ("alpha", [('A', 'Z'), ('a', 'z')]),
  ("ascii", [('\x00', '\x7f')]),
  ("blank", [('\t', '\t'), (' ', ' ')]),
  ("cntrl", [('\x00', '\x1f'), ('\x7f', '\x7f')]),
  ("digit", [('0', '9')]),
  ("graph", [('!', '~')]),
  ("lower", [('a', 'z')]),
  ("print", [(' ', '~')]),
  ("punct", [('!', '/'), (':', '@'), ('[', Char.ofNat 96), (Char.ofNat 123, '~')]),
  ("space", [('\t', '\r'), (' ', ' ')]),
  ("upper", [('A', 'Z')]),
  ("word", [('0', '9'), ('A', 'Z'), ('_', '_'), ('a', 'z')]),
  ("xdigit", [('0', '9'), ('A', 'F'), ('a', 'f')])]

/-- The kinds of boundaries with a name between braces. -/
def boundaryNames : List (String × BoundaryKind) :=
  [("start", .start), ("end", .stop), ("start-half", .startHalf), ("end-half", .stopHalf)]

end ScriptStyle.Pattern
