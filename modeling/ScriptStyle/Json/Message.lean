import ScriptStyle.Json.Input
import ScriptStyle.Text.Quoted

/-!
# What is said about faults in JSON
-/

namespace ScriptStyle.Json

/-- A description of what was found. -/
def Found.describe : Found → Text
  | .null => "null".toList
  | .bool b => "boolean `".toList ++ (if b then "true" else "false").toList ++ "`".toList
  | .integer n => "integer `".toList ++ (toString n).toList ++ "`".toList
  | .float digits => "floating point `".toList ++ digits ++ "`".toList
  | .text t => "string ".toList ++ t.showQuoted
  | .array => "sequence".toList
  | .object => "map".toList

namespace Fault

/-- What is said about a fault. -/
def message : Fault → Text
  | unfinishedArray => "EOF while parsing a list".toList
  | unfinishedObject => "EOF while parsing an object".toList
  | unfinishedText => "EOF while parsing a string".toList
  | unfinishedValue => "EOF while parsing a value".toList
  | noColon => "expected `:`".toList
  | noArrayEnd => "expected `,` or `]`".toList
  | noObjectEnd => "expected `,` or `\x7d`".toList
  | noWord => "expected ident".toList
  | noValue => "expected value".toList
  | badEscape => "invalid escape".toList
  | badNumber => "invalid number".toList
  | hugeNumber => "number out of range".toList
  | controlCharacter =>
    "control character (\\u0000-\\u001F) found while parsing a string".toList
  | keyIsNoText => "key must be a string".toList
  | unpairedSurrogate => "lone leading surrogate in hex escape".toList
  | unfinishedPair => "unexpected end of hex escape".toList
  | trailingComma => "trailing comma".toList
  | trailingCharacters => "trailing characters".toList
  | duplicate key => "duplicate field `".toList ++ key ++ "`".toList
  | wrongType found expected =>
    "invalid type: ".toList ++ found.describe ++ ", expected ".toList ++ expected.toList
  | negative n expected =>
    "invalid value: integer `".toList ++ (toString n).toList ++ "`, expected ".toList ++
      expected.toList

end Fault

/-- What is said about an error, its place included. -/
def Error.message (e : Error) : Text :=
  e.fault.message ++ " at line ".toList ++ Nat.toDigits 10 e.place.line ++ " column ".toList ++
    Nat.toDigits 10 e.place.column

end ScriptStyle.Json
