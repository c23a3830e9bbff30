import ScriptStyle.Text.Basic

/-!
# Writing JSON

A value is written either on one line or with every item on a line of its own, indented by two
spaces for each array and object around it. Numbers are natural numbers, since nothing else is ever
written. In a text only quotes, backslashes and control characters are escaped.
-/

namespace ScriptStyle.Json

/-- What can be written. -/
inductive Value where
  | null
  | bool (b : Bool)
  | number (n : Nat)
  | text (t : Text)
  | array (items : List Value)
  | object (members : List (Text × Value))

namespace Value

/-- A text that does not vary. -/
def word (s : String) : Value := text s.toList

/-- Something that may be missing. -/
def ofOption {α : Type} (f : α → Value) : Option α → Value
  | none => null
  | some a => f a

end Value

/-- A digit of a number in base sixteen. -/
def hexDigit (n : Nat) : Char := Nat.digitChar n

/-- A character between quotes. -/
def escape (c : Char) : Text :=
  if c = '"' then ['\\', '"']
  else if c = '\\' then ['\\', '\\']
  else if 32 ≤ c.toNat then [c]
  else if c = '\n' then ['\\', 'n']
  else if c = '\r' then ['\\', 'r']
  else if c = '\t' then ['\\', 't']
  else if c = '\x08' then ['\\', 'b']
  else if c = '\x0c' then ['\\', 'f']
  else ['\\', 'u', '0', '0', hexDigit (c.toNat / 16), hexDigit (c.toNat % 16)]

/-- A text in quotes. -/
def quote (t : Text) : Text := '"' :: (t.flatMap escape ++ ['"'])

/-- The braces of objects. -/
def openBrace : Char := .ofNat 123

/-- The closing brace of an object. -/
def closeBrace : Char := .ofNat 125

/-- A truth value. -/
def boolWord (b : Bool) : Text := if b then "true".toList else "false".toList

/-- A natural number in decimal digits. -/
def decimal (n : Nat) : Text := Nat.toDigits 10 n

mutual

/-- A value on one line. -/
def compact : Value → Text
  | .null => "null".toList
  | .bool b => boolWord b
  | .number n => decimal n
  | .text t => quote t
  | .array vs => '[' :: compactItems vs
  | .object ms => openBrace :: compactMembers ms

/-- The items of an array with what closes it. -/
def compactItems : List Value → Text
  | [] => [']']
  | [v] => compact v ++ [']']
  | v :: w :: vs => compact v ++ ',' :: compactItems (w :: vs)

/-- The members of an object with what closes it. -/
def compactMembers : List (Text × Value) → Text
  | [] => [closeBrace]
  | [(k, v)] => quote k ++ ':' :: compact v ++ [closeBrace]
  | (k, v) :: m :: ms => quote k ++ ':' :: compact v ++ ',' :: compactMembers (m :: ms)

end

/-- A new line inside a number of arrays and objects. -/
def lineBreak (depth : Nat) : Text := '\n' :: List.replicate (2 * depth) ' '

mutual

/-- A value on several lines, inside a number of arrays and objects. -/
def indented (depth : Nat) : Value → Text
  | .null => "null".toList
  | .bool b => boolWord b
  | .number n => decimal n
  | .text t => quote t
  | .array [] => ['[', ']']
  | .array (v :: vs) => '[' :: indentedItems depth (v :: vs)
  | .object [] => [openBrace, closeBrace]
  | .object (m :: ms) => openBrace :: indentedMembers depth (m :: ms)

/-- The items of an array on lines of their own with what closes it. -/
def indentedItems (depth : Nat) : List Value → Text
  | [] => lineBreak depth ++ [']']
  | [v] => lineBreak (depth + 1) ++ indented (depth + 1) v ++ lineBreak depth ++ [']']
  | v :: w :: vs =>
    lineBreak (depth + 1) ++ indented (depth + 1) v ++ ',' :: indentedItems depth (w :: vs)

/-- The members of an object on lines of their own with what closes it. -/
def indentedMembers (depth : Nat) : List (Text × Value) → Text
  | [] => lineBreak depth ++ [closeBrace]
  | [(k, v)] =>
    lineBreak (depth + 1) ++ quote k ++ ": ".toList ++ indented (depth + 1) v ++
      lineBreak depth ++ [closeBrace]
  | (k, v) :: m :: ms =>
    lineBreak (depth + 1) ++ quote k ++ ": ".toList ++ indented (depth + 1) v ++
      ',' :: indentedMembers depth (m :: ms)

end

end ScriptStyle.Json
