import ScriptStyle.Json.Float
import ScriptStyle.Json.Input

/-!
# Reading JSON: words, texts and numbers

A text can be read or passed over. Passing over one checks less: pairs of surrogates are not looked
at, and a control character is noticed before it is taken.

A number that is not natural, or does not fit into 64 bits, counts as a floating-point number. Its
digits are gathered into a mantissa of 64 bits as long as they fit, and the rest only moves the
exponent.
-/

namespace ScriptStyle.Json

namespace Input

/-- The characters of a word, one after the other. -/
def word (i : Input) : Text → Except Error Input
  | [] => .ok i
  | w :: ws =>
    match i.rest with
    | [] => i.fail .unfinishedValue
    | c :: cs => if c = w then word ⟨i.place.next c, cs⟩ ws else i.failNext .noWord

/-! ## Texts -/

/-- The value of a hexadecimal digit. -/
def hexValue? (c : Char) : Option Nat :=
  if '0' ≤ c && c ≤ '9' then some (c.toNat - 48)
  else if 'a' ≤ c && c ≤ 'f' then some (c.toNat - 87)
  else if 'A' ≤ c && c ≤ 'F' then some (c.toNat - 55)
  else none

/-- Four hexadecimal digits. The next four bytes are taken, whatever they are. -/
def hexDigits (i : Input) : Except Error (Nat × Input) :=
  if i.rest.byteSize < 4 then
    .error ⟨.unfinishedText, i.place.advance i.rest⟩
  else
    match i.rest with
    | a :: b :: c :: d :: cs =>
      match hexValue? a, hexValue? b, hexValue? c, hexValue? d with
      | some x, some y, some z, some w =>
        .ok (((x * 16 + y) * 16 + z) * 16 + w, ⟨i.place.advance [a, b, c, d], cs⟩)
      | _, _, _, _ => .error ⟨.badEscape, placeAfter i.place 4 i.rest⟩
    | _ => .error ⟨.badEscape, placeAfter i.place 4 i.rest⟩

/-- The first half of a surrogate pair. -/
def isHighSurrogate (n : Nat) : Bool := 0xD800 ≤ n && n ≤ 0xDBFF

/-- The second half of a surrogate pair. -/
def isLowSurrogate (n : Nat) : Bool := 0xDC00 ≤ n && n ≤ 0xDFFF

/-- The next character must be the given one of a second escape. -/
def pairSign (i : Input) (c : Char) : Except Error Input :=
  match i.rest with
  | [] => i.fail .unfinishedText
  | d :: cs => if d = c then .ok ⟨i.place.next d, cs⟩ else i.failNext .unfinishedPair

/-- The character that hexadecimal digits stand for, or that two escapes stand for together. -/
def unicodeEscape (i : Input) : Except Error (Char × Input) := do
  let (n, i) ← i.hexDigits
  if isLowSurrogate n then i.fail .unpairedSurrogate
  else if isHighSurrogate n then
    let i ← i.pairSign '\\'
    let i ← i.pairSign 'u'
    let (m, i) ← i.hexDigits
    if isLowSurrogate m then
      return (.ofNat ((n - 0xD800) * 1024 + (m - 0xDC00) + 0x10000), i)
    else i.fail .unpairedSurrogate
  else return (.ofNat n, i)

/-- The character behind a backslash that stands for a single one. -/
def simpleEscape? (c : Char) : Option Char :=
  match c with
  | '"' | '\\' | '/' => some c
  | 'b' => some '\x08'
  | 'f' => some '\x0c'
  | 'n' => some '\n'
  | 'r' => some '\r'
  | 't' => some '\t'
  | _ => none

/-- The character that an escape stands for, read behind the backslash. -/
def escaped (i : Input) : Except Error (Char × Input) :=
  match i.rest with
  | [] => i.fail .unfinishedText
  | c :: cs =>
    let after : Input := ⟨i.place.next c, cs⟩
    if c = 'u' then after.unicodeEscape
    else match simpleEscape? c with
      | some d => .ok (d, after)
      | none => i.failNext .badEscape

/-- The characters of a text up to its closing quote. -/
def textRest : Nat → Input → Except Error (Text × Input)
  | 0, i => i.fail .unfinishedText
  | fuel + 1, i =>
    match i.rest with
    | [] => i.fail .unfinishedText
    | c :: cs =>
      let after : Input := ⟨i.place.next c, cs⟩
      if c = '"' then .ok ([], after)
      else if c = '\\' then do
        let (d, i) ← after.escaped
        let (t, i) ← textRest fuel i
        return (d :: t, i)
      else if c.toNat < 32 then after.fail .controlCharacter
      else do
        let (t, i) ← textRest fuel after
        return (c :: t, i)

/-- A text, read from its opening quote on. -/
def text (i : Input) : Except Error (Text × Input) := textRest (i.rest.length + 1) i.skip

/-- The input behind the closing quote of a text. -/
def skipTextRest : Nat → Input → Except Error Input
  | 0, i => i.fail .unfinishedText
  | fuel + 1, i =>
    match i.rest with
    | [] => i.fail .unfinishedText
    | c :: cs =>
      let after : Input := ⟨i.place.next c, cs⟩
      if c = '"' then .ok after
      else if c = '\\' then
        match cs with
        | [] => after.fail .unfinishedText
        | d :: ds =>
          let later : Input := ⟨after.place.next d, ds⟩
          if d = 'u' then do
            let (_, i) ← later.hexDigits
            skipTextRest fuel i
          else if (simpleEscape? d).isSome then skipTextRest fuel later
          else after.failNext .badEscape
      else if c.toNat < 32 then i.fail .controlCharacter
      else skipTextRest fuel after

/-- The input behind a text, from its opening quote on. -/
def skipText (i : Input) : Except Error Input := skipTextRest (i.rest.length + 1) i.skip

/-! ## Numbers -/

/-- The next characters that are digits, and the input behind them. -/
def digits (i : Input) : Text × Input :=
  let ds := i.rest.takeWhile Char.isDigit
  (ds, ⟨i.place.advance ds, i.rest.drop ds.length⟩)

/-- The next character is one of two. -/
def nextIs (i : Input) (c d : Char) : Bool := i.next? = some c || i.next? = some d

/-- The input behind a sign that may be there. -/
def skipSign (i : Input) : Input := if i.nextIs '+' '-' then i.skip else i

/-- The first digit of an exponent, which has to be there. -/
def firstDigit (i : Input) (atEnd : Fault) : Except Error Unit :=
  match i.next? with
  | some c => if c.isDigit then .ok () else i.failNext .badNumber
  | none => i.fail atEnd

/-- The digits before the point: one zero, or any number of digits that do not begin with one. -/
def wholeDigits (i : Input) (atEnd : Fault) : Except Error (Text × Input) := do
  i.firstDigit atEnd
  if i.next? = some '0' then
    let after := i.skip
    match after.next? with
    | some c => if c.isDigit then after.failNext .badNumber else return (['0'], after)
    | none => return (['0'], after)
  else return i.digits

/-- The input behind a number without its minus sign. -/
def skipNumber (i : Input) : Except Error Input := do
  let (_, i) ← i.wholeDigits .badNumber
  let i ← if i.next? = some '.' then
      let (ds, j) := i.skip.digits
      if ds.isEmpty then j.failNext .badNumber else pure j
    else pure i
  if i.nextIs 'e' 'E' then
    let j := i.skip.skipSign
    j.firstDigit .badNumber
    return j.digits.2
  else return i

end Input

/-- A number that was read. -/
inductive Number where
  | natural (n : Nat)
  | negative (n : Nat)
  | float (f : Float)

namespace Number

/-- The greatest natural number. -/
def limit : Nat := UInt64.size - 1

/-- The greatest negative number without its sign. -/
def negativeLimit : Nat := UInt64.size / 2

/-- What a number is called where something else was expected. -/
def found : Number → Found
  | natural n => .integer n
  | negative n => .integer (-n)
  | float f => .float (floatText f)

/-- The value of a decimal digit. -/
-- With an unknown character the subtraction would be unfolded without coming to an end.
@[irreducible] def digitValue (d : Char) : Nat := d.toNat - '0'.toNat

/-- A mantissa with one more digit, as long as it fits. -/
def push? (mantissa : Nat) (d : Char) : Option Nat :=
  let n := 10 * mantissa + digitValue d
  if n ≤ limit then some n else none

/-- Digits before the point: the mantissa, and how many digits did not fit into it. -/
def wholePart (mantissa : Nat) : Text → Nat × Nat
  | [] => (mantissa, 0)
  | d :: ds =>
    match push? mantissa d with
    | some n => wholePart n ds
    | none => (mantissa, ds.length + 1)

/-- Digits behind the point: the mantissa, and how many digits went into it. -/
def fractionPart (mantissa : Nat) : Text → Nat × Nat
  | [] => (mantissa, 0)
  | d :: ds =>
    match push? mantissa d with
    | some n =>
      let (m, k) := fractionPart n ds
      (m, k + 1)
    | none => (mantissa, 0)

/-- The floating-point number nearest to a power of ten. -/
def power (n : Nat) : Float := .ofScientific 1 false n

/-- A floating-point number divided by a power of ten, by the greatest finite power at a time. -/
def divide : Nat → Float → Nat → Float
  | 0, _, _ => 0
  | fuel + 1, f, n =>
    if n ≤ 308 then f / power n else if f == 0 then f else divide fuel (f / power 308) (n - 308)

/-- The floating-point number `mantissa · 10 ^ exponent`, unless it is infinite. -/
def scale? (mantissa : Nat) (exponent : Int) : Option Float :=
  let f := mantissa.toUInt64.toFloat
  if 0 ≤ exponent then
    if exponent ≤ 308 then
      let g := f * power exponent.toNat
      if g.isInf then none else some g
    else if f == 0 then some f else none
  else some (divide 8 f (-exponent).toNat)

/-- The greatest exponent that is looked at. -/
def exponentLimit : Nat := UInt32.size / 2 - 1

end Number

namespace Input

/-- A floating-point number with its sign. -/
def signed (negative : Bool) (f : Float) : Number := .float (if negative then -f else f)

/-- The rest of a number behind the sign of an exponent. -/
def exponentPart (negative : Bool) (mantissa : Nat) (exponent : Int) (i : Input) :
    Except Error (Number × Input) := do
  let down := i.next? = some '-'
  let j := i.skipSign
  match j.next? with
  | none => j.fail .unfinishedValue
  | some c => if c.isDigit then pure () else j.failNext .badNumber
  let (ds, after) := j.digits
  let value := ds.foldl (fun n d => 10 * n + Number.digitValue d) 0
  if value ≤ Number.exponentLimit then
    match Number.scale? mantissa (if down then exponent - value else exponent + value) with
    | some f => return (signed negative f, after)
    | none => after.fail .hugeNumber
  else if mantissa ≠ 0 && !down then
    let fits := (List.range (ds.length + 1)).takeWhile fun n =>
      (ds.take n).foldl (fun n d => 10 * n + Number.digitValue d) 0 ≤ Number.exponentLimit
    .error ⟨.hugeNumber, j.place.advance (ds.take fits.length)⟩
  else return (signed negative 0, after)

/-- A number without its minus sign. -/
def number (negative : Bool) (i : Input) : Except Error (Number × Input) := do
  let (ds, i) ← i.wholeDigits .unfinishedValue
  let (mantissa, dropped) := Number.wholePart 0 ds
  if i.next? = some '.' then
    let (fs, j) := i.skip.digits
    if fs.isEmpty then
      if j.rest.isEmpty then j.fail .unfinishedValue else j.failNext .badNumber
    else
      let (mantissa, used) := Number.fractionPart mantissa fs
      let exponent : Int := (dropped : Int) - used
      if j.nextIs 'e' 'E' then exponentPart negative mantissa exponent j.skip
      else match Number.scale? mantissa exponent with
        | some f => return (signed negative f, j)
        | none => j.fail .hugeNumber
  else if i.nextIs 'e' 'E' then exponentPart negative mantissa dropped i.skip
  else if dropped ≠ 0 then
    match Number.scale? mantissa dropped with
    | some f => return (signed negative f, i)
    | none => i.fail .hugeNumber
  else if !negative then return (.natural mantissa, i)
  else if mantissa ≠ 0 && mantissa ≤ Number.negativeLimit then return (.negative mantissa, i)
  else return (signed true mantissa.toUInt64.toFloat, i)

end Input

end ScriptStyle.Json
