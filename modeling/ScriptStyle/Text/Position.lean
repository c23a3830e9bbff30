/-!
# Positions in a text

A text is a list of characters. A position names a place between two characters by its line and by
the number of UTF-8 bytes since that line began; a span is a pair of positions. Positions move with
the characters they pass: only a line feed starts a new line, so a carriage return is an ordinary
byte of its line.

Lines of a position count from one. A stored line may still be zero, because hand-made spans are
allowed to be inconsistent with any text; `Position.lineIndex` therefore stops at zero.
-/

namespace ScriptStyle

/-- A place in a text. -/
structure Position where
  /-- The line, counted from one. -/
  line : Nat
  /-- The number of UTF-8 bytes between the beginning of the line and the place. -/
  column : Nat
deriving DecidableEq, Repr, Inhabited

namespace Position

/-- The place before the first character of a text. -/
def origin : Position := ⟨1, 0⟩

/-- The line counted from zero; line zero stays where it is. -/
def lineIndex (p : Position) : Nat := p.line - 1

/-- The place after the character `c` that stands at `p`. -/
def next (p : Position) (c : Char) : Position :=
  if c = '\n' then ⟨p.line + 1, 0⟩ else ⟨p.line, p.column + c.utf8Size⟩

/-- The place after the characters `cs` that stand at `p`. -/
def advance (p : Position) (cs : List Char) : Position := cs.foldl next p

/-- Lines first, then columns. -/
def le (p q : Position) : Bool :=
  p.line < q.line || (p.line == q.line && p.column ≤ q.column)

@[simp] theorem advance_nil (p : Position) : p.advance [] = p := rfl

@[simp] theorem advance_cons (p : Position) (c : Char) (cs : List Char) :
    p.advance (c :: cs) = (p.next c).advance cs := rfl

@[simp] theorem advance_append (p : Position) (cs ds : List Char) :
    p.advance (cs ++ ds) = (p.advance cs).advance ds := by
  simp [advance]

end Position

/-- A stretch of text from a first position up to and without a last one. -/
structure Span where
  /-- Where the stretch begins. -/
  start : Position
  /-- The first place that no longer belongs to it. -/
  stop : Position
deriving DecidableEq, Repr, Inhabited

namespace Span

/-- The two ends lie on different lines. -/
def isMultiline (s : Span) : Bool := s.start.line != s.stop.line

/-- The same beginning with another end. -/
def extendedTo (s : Span) (stop : Position) : Span := { s with stop }

/-- The stretch that the characters `cs` occupy at `p`. -/
def cover (p : Position) (cs : List Char) : Span := ⟨p, p.advance cs⟩

end Span

end ScriptStyle
