import ScriptStyle.Text.Basic
import ScriptStyle.Text.Position

/-!
# Reading JSON: input and errors

An input is a place and the text that follows it. Some errors are found by looking at the next
character and are placed behind its first byte; others are found after a character has been taken
and are placed where the input stands then.
-/

namespace ScriptStyle.Json

/-- What was found where something else was expected. -/
inductive Found where
  | null
  | bool (b : Bool)
  | integer (n : Int)
  | float (digits : Text)
  | text (t : Text)
  | array | object

/-- What is wrong with a text. -/
inductive Fault where
  | unfinishedArray | unfinishedObject | unfinishedText | unfinishedValue
  | noColon | noArrayEnd | noObjectEnd | noWord | noValue
  | badEscape | badNumber | hugeNumber | controlCharacter | keyIsNoText
  | unpairedSurrogate | unfinishedPair | trailingComma | trailingCharacters
  | duplicate (key : Text)
  | wrongType (found : Found) (expected : String)
  | negative (n : Int) (expected : String)

/-- A fault and the place where it was noticed. -/
structure Error where
  /-- What is wrong. -/
  fault : Fault
  /-- Where it was noticed. -/
  place : Position

/-- The part of a text that has not been read. -/
structure Input where
  /-- Where it begins. -/
  place : Position
  /-- Its characters. -/
  rest : Text

namespace Input

/-- The whole of a text. -/
def ofText (t : Text) : Input := ⟨.origin, t⟩

/-- The next character. -/
def next? (i : Input) : Option Char := i.rest.head?

/-- The input behind the next character. -/
def skip (i : Input) : Input :=
  match i.rest with
  | [] => i
  | c :: cs => ⟨i.place.next c, cs⟩

/-- The place behind the first `n` bytes, and behind all bytes if there are fewer. -/
def placeAfter (p : Position) : Nat → Text → Position
  | 0, _ => p
  | _ + 1, [] => p
  | n + 1, c :: cs =>
    if c.utf8Size ≤ n + 1 then placeAfter (p.next c) (n + 1 - c.utf8Size) cs
    else ⟨p.line, p.column + (n + 1)⟩

/-- A fault of what has been taken. -/
def fail {α : Type} (i : Input) (f : Fault) : Except Error α := .error ⟨f, i.place⟩

/-- A fault of the next character. -/
def failNext {α : Type} (i : Input) (f : Fault) : Except Error α :=
  .error ⟨f, placeAfter i.place 1 i.rest⟩

/-- A blank between two parts of a value. -/
def isBlank (c : Char) : Bool := c = ' ' || c = '\n' || c = '\t' || c = '\r'

/-- The input behind leading blanks. -/
def skipBlanks (i : Input) : Input :=
  let blanks := i.rest.takeWhile isBlank
  ⟨i.place.advance blanks, i.rest.drop blanks.length⟩

end Input

end ScriptStyle.Json
