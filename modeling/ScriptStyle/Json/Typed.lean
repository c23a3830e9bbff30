import ScriptStyle.Json.Skip

/-!
# Reading JSON values of an expected form

A value is read as what it is expected to be. If it begins like something else, that is read far
enough to say what was found. Records may be given by name, in any order and with unknown members
between the known ones, or as arrays in the order of their slots; what is not given keeps its
initial value.
-/

namespace ScriptStyle.Json

namespace Input

/-- The error that a value is not what was expected, unless it is not even well formed. -/
def unexpected {α : Type} (i : Input) (expected : String) : Except Error α :=
  let wrong (j : Input) (found : Found) : Except Error α := j.fail (.wrongType found expected)
  match i.next? with
  | none => i.failNext .unfinishedValue
  | some 'n' => do wrong (← i.skip.word ['u', 'l', 'l']) .null
  | some 't' => do wrong (← i.skip.word ['r', 'u', 'e']) (.bool true)
  | some 'f' => do wrong (← i.skip.word ['a', 'l', 's', 'e']) (.bool false)
  | some '-' => do
    let (n, j) ← i.skip.number true
    wrong j n.found
  | some '"' => do
    let (t, j) ← i.text
    wrong j (.text t)
  | some '[' => wrong i .array
  | some c =>
    if c = openBrace then wrong i .object
    else if c.isDigit then do
      let (n, j) ← i.number false
      wrong j n.found
    else i.failNext .noValue

/-- A truth value. -/
def bool (i : Input) : Except Error (Bool × Input) :=
  let i := i.skipBlanks
  match i.next? with
  | some 't' => (i.skip.word ['r', 'u', 'e']).map (true, ·)
  | some 'f' => (i.skip.word ['a', 'l', 's', 'e']).map (false, ·)
  | _ => i.unexpected "a boolean"

/-- A natural number of 64 bits. -/
def natural (i : Input) : Except Error (Nat × Input) :=
  let i := i.skipBlanks
  let check (n : Number) (j : Input) : Except Error (Nat × Input) :=
    match n with
    | .natural n => .ok (n, j)
    | .negative n => j.fail (.negative (-n) "usize")
    | n => j.fail (.wrongType n.found "usize")
  match i.next? with
  | some '-' => do
    let (n, j) ← i.skip.number true
    check n j
  | some c =>
    if c.isDigit then do
      let (n, j) ← i.number false
      check n j
    else i.unexpected "usize"
  | none => i.unexpected "usize"

/-- A text. -/
def someText (i : Input) : Except Error (Text × Input) :=
  let i := i.skipBlanks
  match i.next? with
  | some '"' => i.text
  | _ => i.unexpected "a string"

/-- A text or null. -/
def optionalText (i : Input) : Except Error (Option Text × Input) :=
  let i := i.skipBlanks
  match i.next? with
  | some 'n' => (i.skip.word ['u', 'l', 'l']).map (none, ·)
  | _ => i.someText.map fun (t, j) => (some t, j)

/-! ## Arrays -/

/-- The input at the next item of an array, or the input behind the array. -/
def nextItem (first : Bool) (i : Input) : Except Error (Bool × Input) :=
  let i := i.skipBlanks
  match i.next? with
  | none => i.failNext .unfinishedArray
  | some ']' => .ok (false, i.skip)
  | some c =>
    if first then .ok (true, i)
    else if c = ',' then
      let j := i.skip.skipBlanks
      match j.next? with
      | some ']' => j.failNext .trailingComma
      | some _ => .ok (true, j)
      | none => j.failNext .unfinishedValue
    else i.failNext .noArrayEnd

/-- The texts of an array, from an item on. -/
def textItems : Nat → Bool → Input → Except Error (List Text × Input)
  | 0, _, i => i.fail .unfinishedArray
  | fuel + 1, first, i => do
    let (more, i) ← i.nextItem first
    if more then
      let (t, i) ← i.someText
      let (ts, i) ← textItems fuel false i
      return (t :: ts, i)
    else return ([], i)

/-- An array of texts. -/
def texts (i : Input) : Except Error (List Text × Input) :=
  let i := i.skipBlanks
  match i.next? with
  | some '[' => textItems (i.rest.length + 1) true i.skip
  | _ => i.unexpected "a sequence"

/-- The end of an array that has an item for each slot already. -/
def endArray (i : Input) : Except Error Input :=
  let i := i.skipBlanks
  match i.next? with
  | some ']' => .ok i.skip
  | some ',' =>
    let j := i.skip.skipBlanks
    j.failNext (if j.next? = some ']' then .trailingComma else .trailingCharacters)
  | some _ => i.failNext .trailingCharacters
  | none => i.failNext .unfinishedArray

/-! ## Records -/

section Records

variable {σ ρ : Type} (read : ρ → Input → Except Error ((σ → σ) × Input))

/-- A record given as an array: the items for the slots that are left. -/
def slotItems (first : Bool) (s : σ) : List (String × ρ) → Input → Except Error (σ × Input)
  | [], i => i.endArray.map (s, ·)
  | (_, r) :: slots, i => do
    let (more, i) ← i.nextItem first
    if more then
      let (f, i) ← read r i
      slotItems false (f s) slots i
    else return (s, i)

/-- The input at the key of the next member of an object, or the input behind the object. -/
def nextMember (first : Bool) (i : Input) : Except Error (Bool × Input) :=
  let i := i.skipBlanks
  match i.next? with
  | none => i.failNext .unfinishedObject
  | some c =>
    if c = closeBrace then .ok (false, i.skip)
    else if first then if c = '"' then .ok (true, i) else i.failNext .keyIsNoText
    else if c = ',' then
      let j := i.skip.skipBlanks
      match j.next? with
      | some '"' => .ok (true, j)
      | some d => j.failNext (if d = closeBrace then .trailingComma else .keyIsNoText)
      | none => j.failNext .unfinishedValue
    else i.failNext .noObjectEnd

/-- The error that a member is there twice, found behind its second key. -/
def duplicate {α : Type} (i : Input) (key : Text) : Except Error α :=
  let i := i.skipBlanks
  (if i.next? = some closeBrace then i.skip else i).fail (.duplicate key)

/-- The slot with a name. -/
def slot? (slots : List (String × ρ)) (key : Text) : Option ρ :=
  (slots.find? (·.1.toList = key)).map (·.2)

/-- A record given as an object: the members that are left. -/
def slotMembers (slots : List (String × ρ)) :
    Nat → Bool → List Text → σ → Input → Except Error (σ × Input)
  | 0, _, _, _, i => i.fail .unfinishedObject
  | fuel + 1, first, seen, s, i => do
    let (more, i) ← i.nextMember first
    if more then
      let (key, i) ← i.text
      match slot? slots key with
      | none =>
        let i ← i.colon
        let i ← i.skipAny
        slotMembers slots fuel false seen s i
      | some r =>
        if seen.contains key then i.duplicate key
        else
          let i ← i.colon
          let (f, i) ← read r i
          slotMembers slots fuel false (key :: seen) (f s) i
    else return (s, i)

/-- A record. -/
def record (title : String) (slots : List (String × ρ)) (initial : σ) (i : Input) :
    Except Error (σ × Input) :=
  let i := i.skipBlanks
  match i.next? with
  | some '[' => slotItems read true initial slots i.skip
  | some c =>
    if c = openBrace then slotMembers read slots (i.rest.length + 1) true [] initial i.skip
    else i.unexpected ("struct " ++ title)
  | none => i.unexpected ("struct " ++ title)

end Records

/-- Nothing but blanks is left. -/
def finish (i : Input) : Except Error Unit :=
  let i := i.skipBlanks
  match i.next? with
  | some _ => i.failNext .trailingCharacters
  | none => .ok ()

end Input

end ScriptStyle.Json
