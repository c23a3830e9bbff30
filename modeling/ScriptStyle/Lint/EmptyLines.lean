import ScriptStyle.Source.Model
import ScriptStyle.Text.Characters
import ScriptStyle.Lint.Diagnostic

/-!
# Empty lines

Two empty lines must not follow each other, and code must not go on for long without one. How long
is a width: every window of that many lines that holds no empty line is reported by its first line.
The last window that is looked at ends just before the last line of the text.

The number of empty lines in a window is kept up as the window slides: the line that enters is added
and the line that leaves is taken off.
-/

namespace ScriptStyle.EmptyLines

/-- What is said about an empty line after another. -/
def extraMessage : Text := "Extra empty line".toList

/-- What is said about a window without an empty line. -/
def denseMessage : Text := "Too much code without an empty line".toList

/-- A line counts as empty if it holds nothing but white space. -/
def isEmptyLine (line : Text) : Bool := line.all Characters.isWhiteSpace

/-- Which lines are empty. -/
def flags (m : Model) : List Bool := m.lines.map isEmptyLine

/-- The lines that are empty like the one before, where the first flag belongs to line `i`. -/
def doubledFrom (i : Nat) : List Bool → List Nat
  | a :: b :: rest =>
    if a && b then (i + 1) :: doubledFrom (i + 1) (b :: rest) else doubledFrom (i + 1) (b :: rest)
  | _ => []

/-- The lines that are empty like the one before. -/
def doubled (blank : List Bool) : List Nat := doubledFrom 0 blank

/-- The starts of the windows without empty lines that are met while the window slides by one line
for each pair of a line that leaves and a line that enters. -/
def slide (start blanks : Nat) : List (Bool × Bool) → List Nat
  | [] => []
  | (left, entered) :: rest =>
    let blanks := blanks + entered.toNat - left.toNat
    if blanks = 0 then start :: slide (start + 1) blanks rest else slide (start + 1) blanks rest

/-- The first lines of all windows of a width without an empty line. -/
def denseWindows (width : Nat) (blank : List Bool) : List Nat :=
  if width = 0 || blank.length ≤ width then []
  else
    let blanks := (blank.take width).count true
    let pairs := (blank.zip (blank.drop width)).take (blank.length - (width + 1))
    if blanks = 0 then 0 :: slide 1 blanks pairs else slide 1 blanks pairs

/-- The warnings about a source: first the empty lines that are too many, then the windows without
one. -/
def check (width : Nat) (m : Model) : List Diagnostic :=
  let blank := flags m
  (doubled blank).map (.warning .emptyLines extraMessage m.filename ·) ++
    (denseWindows width blank).map (.warning .emptyLines denseMessage m.filename ·)

end ScriptStyle.EmptyLines
