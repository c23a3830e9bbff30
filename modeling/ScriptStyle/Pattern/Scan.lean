import ScriptStyle.Pattern.Mode

/-!
# The small parts of a pattern

Each function reads one part from the front of a text and gives what it means together with the
text behind it, or nothing if the part is not well formed. In a verbose mode blanks and comments may
stand between the characters of most parts.
-/

namespace ScriptStyle.Pattern

/-- The text behind leading blanks and comments. -/
def skipBlanks (comment : Bool) : Text → Text
  | [] => []
  | c :: cs =>
    if comment then skipBlanks (c != '\n') cs
    else if Characters.isWhiteSpace c then skipBlanks false cs
    else if c = '#' then skipBlanks true cs
    else c :: cs

namespace Mode

/-- The text behind what the mode ignores. -/
def skip (m : Mode) (t : Text) : Text := if m.verbose then skipBlanks false t else t

/-- The text behind the first character and what the mode ignores after it, if any is left. -/
def next? (m : Mode) : Text → Option Text
  | [] => none
  | _ :: cs => match m.skip cs with
    | [] => none
    | r => some r

end Mode

theorem length_skipBlanks_le (comment : Bool) (t : Text) :
    (skipBlanks comment t).length ≤ t.length := by
  induction t generalizing comment with
  | nil => simp [skipBlanks]
  | cons c cs ih =>
    rw [skipBlanks]
    split
    · exact Nat.le_trans (ih _) (by simp)
    · split
      · exact Nat.le_trans (ih _) (by simp)
      · split
        · exact Nat.le_trans (ih _) (by simp)
        · simp

theorem length_skip_le (m : Mode) (t : Text) : (m.skip t).length ≤ t.length := by
  rw [Mode.skip]
  split
  · exact length_skipBlanks_le _ _
  · exact Nat.le_refl _

theorem length_skip_lt (m : Mode) (c : Char) (cs : Text) :
    (m.skip cs).length < (c :: cs).length :=
  Nat.lt_succ_of_le (length_skip_le m cs)

/-- A part of a pattern that stands for characters or for an assertion. -/
inductive Element where
  /-- A single character, and whether it was written as a byte. -/
  | char (c : Char) (byte : Bool)
  | set (s : CharacterSet)
  | assertion (a : Assertion)

/-- The value of a hexadecimal digit. -/
def hexValue? (c : Char) : Option Nat :=
  if '0' ≤ c && c ≤ '9' then some (c.toNat - 48)
  else if 'a' ≤ c && c ≤ 'f' then some (c.toNat - 87)
  else if 'A' ≤ c && c ≤ 'F' then some (c.toNat - 55)
  else none

/-- The character with a number, unless the number lies in a gap. -/
def charOf? (n : Nat) : Option Char := if h : n.isValidChar then some (.ofNatAux n h) else none

/-- The number that a fixed count of hexadecimal digits spell. -/
def hexDigits (m : Mode) (value : Nat) : Nat → Text → Option (Nat × Text)
  | 0, t => some (value, t)
  | n + 1, c :: cs => do
    let d ← hexValue? c
    hexDigits m (16 * value + d) n (m.skip cs)
  | _ + 1, [] => none

/-- The number that hexadecimal digits up to a closing brace spell. -/
def hexBraced (m : Mode) (value : Option Nat) (t : Text) : Option (Nat × Text) :=
  match t with
  | [] => none
  | c :: cs =>
    if c.toNat = 125 then value.map (·, m.skip cs)
    else do
      let d ← hexValue? c
      hexBraced m (some (16 * value.getD 0 + d)) (m.skip cs)
termination_by t.length
decreasing_by exact length_skip_lt m _ cs

/-- The character behind the letter of a hexadecimal escape. -/
def hexEscape (m : Mode) (letter : Char) (t : Text) : Option (Element × Text) :=
  match t with
  | [] => none
  | c :: cs =>
    if c.toNat = 123 then do
      let (n, r) ← hexBraced m none (m.skip cs)
      some (.char (← charOf? n) false, r)
    else do
      let count := match letter with
        | 'x' => 2
        | 'u' => 4
        | _ => 8
      let (n, r) ← hexDigits m 0 count t
      some (.char (← charOf? n) (letter = 'x'), r)

/-- The characters up to a closing brace. -/
def braced (m : Mode) (name : Text) (t : Text) : Option (Text × Text) :=
  match t with
  | [] => none
  | c :: cs =>
    if c.toNat = 125 then some (name.reverse, cs) else braced m (c :: name) (m.skip cs)
termination_by t.length
decreasing_by exact length_skip_lt m _ cs

/-- A text cut at its first sign of inequality; `past` holds the characters before it, the latest
first. -/
def cutUnequal (past : Text) : Text → Option (Text × Text × Bool)
  | '!' :: '=' :: r => some (past.reverse, r, true)
  | c :: r => cutUnequal (c :: past) r
  | [] => none

/-- A text cut at the first place where a sign stands that separates a property from its value, and
whether the sign is one of inequality. An inequality is looked for first, then a colon. -/
def valueOf? (name : Text) : Option (Text × Text × Bool) :=
  let before (p : Char → Bool) : Text := name.takeWhile (!p ·)
  let after (p : Char → Bool) : Text := (name.dropWhile (!p ·)).drop 1
  cutUnequal [] name <|>
    if name.contains ':' then some (before (· = ':'), after (· = ':'), false)
    else if name.contains '=' then some (before (· = '='), after (· = '='), false)
    else none

/-- The class behind the letter of a property escape. -/
def propertyEscape (m : Mode) (letter : Char) (t : Text) : Option (Element × Text) := do
  guard !m.ascii
  let (name, r) ← match t with
    | [] => none
    | c :: cs =>
      if c.toNat = 123 then braced m [] (m.skip cs)
      else if c = '\\' then none
      else some ([c], m.skip cs)
  let (k, unequal) ← match valueOf? name with
    | some (name, value, unequal) => (CharacterClass.valued? name value).map (·, unequal)
    | none => (CharacterClass.named? name).map (·, false)
  let s ← m.negate ((letter = 'P') != unequal) (m.fold (.named k))
  some (.set s, r)

/-- The named boundary that braces may hold: nothing is read if they begin with something that no
such name begins with, but a name must be known. -/
def boundaryName (m : Mode) (t : Text) : Option (Option BoundaryKind × Text) :=
  let isPart (c : Char) : Bool := c.isAlpha || c = '-'
  match t with
  | c :: cs =>
    if c.toNat = 123 then
      match m.skip cs with
      | [] => none
      | d :: ds =>
        if isPart d then do
          let (name, r) ← braced m [] (d :: ds)
          guard (name.all isPart)
          let (_, kind) ← boundaryNames.find? (·.1.toList = name)
          some (some kind, r)
        else some (none, t)
    else some (none, t)
  | [] => some (none, t)

/-- The signs that mean something in a pattern. -/
def isSign (c : Char) : Bool := "\\.+*?()|[]\x7b\x7d^$#&-~".toList.contains c

/-- The signs that mean nothing but may stand behind a backslash all the same. -/
def isPlainSign (c : Char) : Bool := c.toNat < 128 && !c.isAlphanum && c != '<' && c != '>'

/-- What stands behind a backslash. -/
def escape (m : Mode) (t : Text) : Option (Element × Text) :=
  match t with
  | [] => none
  | c :: cs =>
    let boundary (kind : BoundaryKind) : Element := .assertion (.boundary kind m.word)
    match c with
    | 'x' | 'u' | 'U' =>
      match m.skip cs with
      | [] => none
      | r => hexEscape m c r
    | 'p' | 'P' =>
      match m.skip cs with
      | [] => none
      | r => propertyEscape m c r
    | 'd' | 's' | 'w' | 'D' | 'S' | 'W' =>
      (m.negate c.isUpper (m.shorthand c)).map fun s => (.set s, cs)
    | 'a' => some (.char '\x07' false, cs)
    | 'f' => some (.char '\x0c' false, cs)
    | 't' => some (.char '\t' false, cs)
    | 'n' => some (.char '\n' false, cs)
    | 'r' => some (.char '\r' false, cs)
    | 'v' => some (.char '\x0b' false, cs)
    | 'A' => some (.assertion .textStart, cs)
    | 'z' => some (.assertion .textEnd, cs)
    | 'b' => do
      let (kind, r) ← boundaryName m cs
      some (boundary (kind.getD .edge), r)
    | 'B' => some (boundary .inside, cs)
    | '<' => some (boundary .start, cs)
    | '>' => some (boundary .stop, cs)
    | _ => if isSign c || isPlainSign c then some (.char c false, cs) else none

/-- The greatest number that a counted repetition may hold. -/
def countLimit : Nat := UInt32.size - 1

/-- The digits of a number with what the mode ignores between them. -/
def digits (m : Mode) (t : Text) : List Char × Text :=
  match t with
  | [] => ([], [])
  | c :: cs =>
    if c.isDigit then
      let (ds, r) := digits m (m.skip cs)
      (c :: ds, r)
    else ([], t)
termination_by t.length
decreasing_by exact length_skip_lt m _ cs

/-- A number in a counted repetition, white space around it. -/
def decimal (m : Mode) (t : Text) : Option (Nat × Text) := do
  let (ds, r) := digits m (t.dropWhile Characters.isWhiteSpace)
  guard !ds.isEmpty
  let n := ds.foldl (fun n d => 10 * n + (d.toNat - 48)) 0
  guard (n ≤ countLimit)
  some (n, m.skip (r.dropWhile Characters.isWhiteSpace))

/-- The counts of a repetition, read behind the opening brace. -/
def counts (m : Mode) (t : Text) : Option ((Nat × Option Nat) × Text) := do
  let (least, r) ← decimal m t
  let (most, r) ← match r with
    | ',' :: r =>
      match m.skip r with
      | [] => none
      | c :: cs =>
        if c.toNat = 125 then some (none, c :: cs)
        else do
          let (most, r) ← decimal m (c :: cs)
          some (some most, r)
    | _ => some (some least, r)
  match r with
  | c :: cs =>
    if c.toNat = 125 && most.all (least ≤ ·) then some ((least, most), cs) else none
  | [] => none

/-- A mode changed by the letters up to a colon or a closing parenthesis: the mode, whether any
letter or sign stood there, and whether a parenthesis closed them. -/
def flags (m : Mode) (seen : List Char) (on : Bool) (dangling : Bool) :
    Text → Option (Mode × Bool × Bool × Text)
  | [] => none
  | c :: cs =>
    if c = ':' || c = ')' then
      if dangling then none else some (m, !seen.isEmpty || !on, c = ')', cs)
    else if c = '-' then if on then flags m seen false true cs else none
    else if seen.contains c then none
    else match m.switch c on with
      | some m' => flags m' (c :: seen) on false cs
      | none => none

/-- The name of a group up to the closing angle bracket. -/
def groupName (name : Text) : Text → Option (Text × Text)
  | [] => none
  | c :: cs =>
    if c = '>' then if name.isEmpty then none else some (name.reverse, cs)
    else
      let alphabetic := c = '_' || Characters.isAlphabetic c
      let later := c = '.' || c = '[' || c = ']' || (Characters.category c).head? = some 'N'
      if alphabetic || (later && !name.isEmpty) then groupName (c :: name) cs else none

end ScriptStyle.Pattern
