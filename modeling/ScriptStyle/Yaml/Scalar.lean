import ScriptStyle.Yaml.Node

/-!
# YAML scalars

Lines of a scalar are folded: a single line break turns into a blank, and of several ones all but
the first are kept. Blanks around the breaks are dropped. A scalar that goes on in the next line has
to be indented more than what contains it.

All functions here take the text from the scalar on, its line breaks being line feeds, and give what
the scalar stands for with the text behind it.
-/

namespace ScriptStyle.Yaml

/-- A blank inside a line. -/
def isBlank (c : Char) : Bool := c = ' ' || c = '\t'

/-- A text that begins with a blank or a line break, or is empty. -/
def startsBlank : Text → Bool
  | [] => true
  | c :: _ => isBlank c || c = '\n'

/-- A sign that has a meaning inside flow collections. -/
def isFlowSign (c : Char) : Bool :=
  c = ',' || c = '[' || c = ']' || c.toNat = 123 || c.toNat = 125

/-- Two marks that end a document, seen from the beginning of a line. -/
def isMarker : Text → Bool
  | '-' :: '-' :: '-' :: r => startsBlank r
  | '.' :: '.' :: '.' :: r => startsBlank r
  | _ => false

/-- What is between two lines of a scalar: the number of line breaks, the column of what follows,
and the text from there on. -/
def breaks (count column : Nat) : Text → Nat × Nat × Text
  | '\n' :: cs => breaks (count + 1) 0 cs
  | c :: cs => if isBlank c then breaks count (column + 1) cs else (count, column, c :: cs)
  | [] => (count, column, [])

/-- What some line breaks turn into. -/
def folded (count : Nat) : Text := if count ≤ 1 then [' '] else List.replicate (count - 1) '\n'

/-- A text without the blanks at its end. -/
def trimEnd (t : Text) : Text := (t.reverse.dropWhile isBlank).reverse

/-! ## Plain scalars -/

/-- The first line of a plain scalar and the text behind it. The blank in front of a comment belongs
to that text. -/
def plainLine (flow : Bool) (line : Text) (spaced : Bool) : Text → Text × Text
  | [] => (line.reverse, [])
  | c :: cs =>
    if c = '\n' || (flow && isFlowSign c) ||
        (c = ':' && (startsBlank cs || (flow && cs.head?.any isFlowSign))) then
      (line.reverse, c :: cs)
    else if c = '#' && spaced then
      (line.tail.reverse, line.head?.toList ++ c :: cs)
    else plainLine flow (c :: line) (isBlank c) cs

/-- A plain scalar may begin with the first character. -/
def startsPlain (flow : Bool) : Text → Bool
  | [] => false
  | c :: cs =>
    if c = '-' || c = '?' || c = ':' then !startsBlank cs && !(flow && cs.head?.any isFlowSign)
    else !(startsBlank [c] || isFlowSign c || "#&*!|>'\"%@".toList.contains c || c.toNat = 96)

/-- The lines of a plain scalar behind the first one. -/
def plainLines (flow : Bool) (indent : Int) : Nat → Text → Text × Text
  | 0, t => ([], t)
  | fuel + 1, t =>
    let (count, column, r) := breaks 0 0 t
    let stops := count = 0 || (column : Int) ≤ indent || (column = 0 && isMarker r) ||
      r.head? = some '#' || (plainLine flow [] true r).1.isEmpty
    if stops then ([], t)
    else
      let (line, r) := plainLine flow [] true r
      let (more, r) := plainLines flow indent fuel r
      (folded count ++ trimEnd line ++ more, r)

/-- A plain scalar. -/
def plain (flow : Bool) (indent : Int) (t : Text) : Option (Text × Text) :=
  if startsPlain flow t then
    let (line, r) := plainLine flow [] false t
    let (more, r) := plainLines flow indent t.length r
    some (trimEnd line ++ more, r)
  else none

/-! ## Quoted scalars -/

/-- Line breaks inside quotes: what they turn into and the text behind them. -/
def quotedBreak (indent : Int) (t : Text) : Option (Text × Text) :=
  let (count, column, r) := breaks 0 0 t
  if r.isEmpty || (column : Int) ≤ indent || (column = 0 && isMarker r) then none
  else some (folded count, r)

/-- The rest of a scalar in single quotes. -/
def singleQuoted (indent : Int) (done : Text) : Nat → Text → Option (Text × Text)
  | 0, _ => none
  | _ + 1, [] => none
  | fuel + 1, '\'' :: '\'' :: cs => singleQuoted indent ('\'' :: done) fuel cs
  | fuel + 1, c :: cs =>
    if c = '\'' then some (done.reverse, cs)
    else if c = '\n' then do
      let (t, r) ← quotedBreak indent (c :: cs)
      singleQuoted indent (t.reverse ++ done.dropWhile isBlank) fuel r
    else singleQuoted indent (c :: done) fuel cs

/-- The value of a hexadecimal digit. -/
def hexValue? (c : Char) : Option Nat :=
  if '0' ≤ c && c ≤ '9' then some (c.toNat - 48)
  else if 'a' ≤ c && c ≤ 'f' then some (c.toNat - 87)
  else if 'A' ≤ c && c ≤ 'F' then some (c.toNat - 55)
  else none

/-- The character that a fixed count of hexadecimal digits stand for. -/
def hexChar (value : Nat) : Nat → Text → Option (Char × Text)
  | 0, t => if value.isValidChar then some (.ofNat value, t) else none
  | n + 1, c :: cs => (hexValue? c).bind fun d => hexChar (16 * value + d) n cs
  | _ + 1, [] => none

/-- The character behind a backslash that stands for a single one. -/
def simpleEscape? (c : Char) : Option Char :=
  match c with
  | '0' => some '\x00'
  | 'a' => some '\x07'
  | 'b' => some '\x08'
  | 't' | '\t' => some '\t'
  | 'n' => some '\n'
  | 'v' => some '\x0b'
  | 'f' => some '\x0c'
  | 'r' => some '\r'
  | 'e' => some '\x1b'
  | ' ' | '"' | '/' | '\\' => some c
  | 'N' => some (.ofNat 0x85)
  | '_' => some (.ofNat 0xA0)
  | 'L' => some (.ofNat 0x2028)
  | 'P' => some (.ofNat 0x2029)
  | _ => none

/-- The rest of a scalar in double quotes. The blanks that may be dropped at the end of a line are
kept apart, since escaped ones stay. -/
def doubleQuoted (indent : Int) (done blanks : Text) : Nat → Text → Option (Text × Text)
  | 0, _ => none
  | _ + 1, [] => none
  | fuel + 1, c :: cs =>
    if c = '"' then some ((blanks ++ done).reverse, cs)
    else if isBlank c then doubleQuoted indent done (c :: blanks) fuel cs
    else if c = '\n' then do
      let (t, r) ← quotedBreak indent (c :: cs)
      doubleQuoted indent (t.reverse ++ done) [] fuel r
    else if c = '\\' then
      let done := blanks ++ done
      match cs with
      | [] => none
      | '\n' :: ds => do
        let (count, column, r) := breaks 0 0 ds
        if r.isEmpty || (column : Int) ≤ indent then none
        else doubleQuoted indent (List.replicate count '\n' ++ done) [] fuel r
      | d :: ds =>
        let width := if d = 'x' then 2 else if d = 'u' then 4 else if d = 'U' then 8 else 0
        if width ≠ 0 then do
          let (e, r) ← hexChar 0 width ds
          doubleQuoted indent (e :: done) [] fuel r
        else do
          let e ← simpleEscape? d
          doubleQuoted indent (e :: done) [] fuel ds
    else doubleQuoted indent (c :: (blanks ++ done)) [] fuel cs

/-- A scalar in quotes. -/
def quoted (indent : Int) (t : Text) : Option (Text × Text) :=
  match t with
  | '"' :: cs => doubleQuoted indent [] [] (cs.length + 1) cs
  | '\'' :: cs => singleQuoted indent [] (cs.length + 1) cs
  | _ => none

/-! ## Block scalars -/

/-- What becomes of the line breaks at the end of a block scalar. -/
inductive Chomping where
  | clip | strip | keep

/-- The signs behind the sign of a block scalar: the indentation, and what becomes of the breaks at
the end. -/
def blockHeader (width : Option Nat) (chomping : Option Chomping) :
    Text → Option (Option Nat × Chomping × Text)
  | [] => some (width, chomping.getD .clip, [])
  | c :: cs =>
    if c = '+' && chomping.isNone then blockHeader width (some .keep) cs
    else if c = '-' && chomping.isNone then blockHeader width (some .strip) cs
    else if '1' ≤ c && c ≤ '9' && width.isNone then
      blockHeader (some (c.toNat - 48)) chomping cs
    else
      let r := (c :: cs).dropWhile isBlank
      let r := if isBlank c && r.head? = some '#' then r.dropWhile (· != '\n') else r
      match r with
      | [] => some (width, chomping.getD .clip, [])
      | '\n' :: r => some (width, chomping.getD .clip, r)
      | _ => none

/-- The number of leading spaces. -/
def leadingSpaces (t : Text) : Nat := (t.takeWhile (· = ' ')).length

/-- The lines of a block scalar at an indentation, and the text behind them. Lines of nothing but
spaces belong to it whatever their length is. -/
def blockLines (width : Nat) : Nat → Text → List Text × Text
  | 0, t => ([], t)
  | _ + 1, [] => ([], [])
  | fuel + 1, t =>
    let line := t.takeWhile (· != '\n')
    let rest := t.drop line.length
    let n := leadingSpaces line
    let inside := width ≤ n || n = line.length
    if inside && !(n = 0 && isMarker t) then
      match rest with
      | [] => ([line.drop width], [])
      | _ :: rest =>
        let (lines, r) := blockLines width fuel rest
        (line.drop width :: lines, r)
    else ([], t)

/-- The indentation of the first line that holds something. -/
def detectWidth (t : Text) : Nat :=
  match (t.lines.find? fun l => leadingSpaces l < l.length) with
  | some l => leadingSpaces l
  | none => 0

/-- A line that is not folded because it is indented further. -/
def isFurther (line : Text) : Bool := line.head?.any isBlank

/-- The lines of a folded scalar, joined. `open` is the number of breaks since the last line that
holds something, `further` whether that line was indented further. -/
def foldLines (pending : Nat) (further started : Bool) : List Text → Text
  | [] => []
  | l :: ls =>
    if l.isEmpty then foldLines (pending + 1) further started ls
    else
      let gap :=
        if !started then List.replicate pending '\n'
        else if further || isFurther l then List.replicate pending '\n'
        else if pending = 1 then [' '] else List.replicate (pending - 1) '\n'
      gap ++ l ++ foldLines 1 (isFurther l) true ls

/-- A block scalar, read from its sign on. -/
def block (indent : Int) (t : Text) : Option (Text × Text) :=
  match t with
  | [] => none
  | sign :: cs => do
    let (width, chomping, r) ← blockHeader none none cs
    let least := (indent + 1).toNat
    let width := match width with
      | some w => indent.toNat + w
      | none => max least (detectWidth r)
    let (lines, rest) := blockLines width (r.length + 1) r
    let full := (lines.reverse.dropWhile (·.isEmpty)).reverse
    let trailing := lines.length - full.length
    let body :=
      if sign = '>' then foldLines 0 false false full
      else ['\n'].intercalate full
    let ending := match chomping with
      | .strip => []
      | .clip => if full.isEmpty then [] else ['\n']
      | .keep => List.replicate (trailing + if full.isEmpty then 0 else 1) '\n'
    some (body ++ ending, rest)

end ScriptStyle.Yaml
