import ScriptStyle.Json.Scalar
import ScriptStyle.Json.Value

/-!
# Passing over JSON values

A value that nobody asks for is passed over. It still has to be well formed, but a comma before a
closing bracket is reported by what is missing behind it.
-/

namespace ScriptStyle.Json

namespace Input

/-- The input behind the colon between a key and its value. -/
def colon (i : Input) : Except Error Input :=
  let i := i.skipBlanks
  match i.next? with
  | some ':' => .ok i.skip
  | some _ => i.failNext .noColon
  | none => i.failNext .unfinishedObject

mutual

/-- The input behind any value. -/
def skipValue : Nat → Input → Except Error Input
  | 0, i => i.fail .unfinishedValue
  | fuel + 1, i =>
    let i := i.skipBlanks
    match i.next? with
    | none => i.failNext .unfinishedValue
    | some 'n' => i.skip.word ['u', 'l', 'l']
    | some 't' => i.skip.word ['r', 'u', 'e']
    | some 'f' => i.skip.word ['a', 'l', 's', 'e']
    | some '-' => i.skip.skipNumber
    | some '"' => i.skipText
    | some '[' =>
      let j := i.skip.skipBlanks
      match j.next? with
      | some ']' => .ok j.skip
      | none => j.failNext .unfinishedArray
      | _ => skipItems fuel j
    | some c =>
      if c = openBrace then
        let j := i.skip.skipBlanks
        match j.next? with
        | none => j.failNext .unfinishedObject
        | some d => if d = closeBrace then .ok j.skip else skipMembers fuel j
      else if c.isDigit then i.skipNumber
      else i.failNext .noValue

/-- The input behind an array, from an item on. -/
def skipItems : Nat → Input → Except Error Input
  | 0, i => i.fail .unfinishedArray
  | fuel + 1, i => do
    let i ← skipValue fuel i
    let i := i.skipBlanks
    match i.next? with
    | some ',' => skipItems fuel i.skip
    | some ']' => .ok i.skip
    | some _ => i.failNext .noArrayEnd
    | none => i.failNext .unfinishedArray

/-- The input behind an object, from a key on. -/
def skipMembers : Nat → Input → Except Error Input
  | 0, i => i.fail .unfinishedObject
  | fuel + 1, i => do
    let i := i.skipBlanks
    match i.next? with
    | some '"' =>
      let i ← i.skipText
      let i ← i.colon
      let i ← skipValue fuel i
      let i := i.skipBlanks
      match i.next? with
      | some ',' => skipMembers fuel i.skip
      | some c => if c = closeBrace then .ok i.skip else i.failNext .noObjectEnd
      | none => i.failNext .unfinishedObject
    | some _ => i.failNext .keyIsNoText
    | none => i.failNext .unfinishedObject

end

/-- The input behind any value. -/
def skipAny (i : Input) : Except Error Input := skipValue (2 * i.rest.length + 2) i

end Input

end ScriptStyle.Json
