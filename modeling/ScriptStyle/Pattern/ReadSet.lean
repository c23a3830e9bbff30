import ScriptStyle.Pattern.Scan

/-!
# Reading sets in brackets

Brackets may be nested, and inside them sets are combined by operators of equal strength. The
brackets that are open form a stack, the innermost on top; what has been read of a bracket is the
union of its items since the last operator, and the operation that waits for that union.
-/

namespace ScriptStyle.Pattern

/-- The operators between sets. -/
inductive SetOperator where
  | inter | diff | symmDiff

namespace SetOperator

/-- The sign of an operator, written twice. -/
def ofSign? (c : Char) : Option SetOperator :=
  match c with
  | '&' => some inter
  | '-' => some diff
  | '~' => some symmDiff
  | _ => none

/-- The result of an operator, variants in case counted in. -/
def apply (o : SetOperator) (m : Mode) (s t : CharacterSet) : CharacterSet :=
  match o with
  | inter => .inter (m.fold s) (m.fold t)
  | diff => .diff (m.fold s) (m.fold t)
  | symmDiff => .symmDiff (m.fold s) (m.fold t)

end SetOperator

/-- What has been read of a bracket. -/
structure Bracket where
  /-- The bracket stands for the characters that are not in it. -/
  negated : Bool
  /-- The operation that waits for its second operand. -/
  pending : Option (CharacterSet × SetOperator) := none
  /-- The items since the last operator. -/
  items : CharacterSet := .empty

namespace Bracket

/-- One more item. -/
def add (b : Bracket) (s : CharacterSet) : Bracket := { b with items := .union b.items s }

/-- The operands read so far, combined. -/
def value (b : Bracket) (m : Mode) : CharacterSet :=
  match b.pending with
  | some (s, o) => o.apply m s b.items
  | none => b.items

/-- An operator behind the items. -/
def operate (b : Bracket) (m : Mode) (o : SetOperator) : Bracket :=
  { b with pending := some (b.value m, o), items := .empty }

/-- The set that the bracket stands for once it is closed. -/
def close (b : Bracket) (m : Mode) : Option CharacterSet := m.negate b.negated (m.fold (b.value m))

/-- Leading hyphens, which stand for themselves. -/
def hyphens (m : Mode) (b : Bracket) (t : Text) : Option (Bracket × Bool × Text) :=
  match t with
  | [] => none
  | c :: cs =>
    if c = '-' then (hyphens m (b.add (.singleton '-')) (m.skip cs)).map fun r => (r.1, true, r.2.2)
    else some (b, false, t)
termination_by t.length
decreasing_by exact length_skip_lt m _ cs

/-- The beginning of a bracket behind its opening sign: whether it is negated, and a closing sign
or hyphens that stand for themselves because they come first. -/
def start (m : Mode) (t : Text) : Option (Bracket × Text) := do
  let r := m.skip t
  let (negated, r) ← match r with
    | '^' :: _ => (m.next? r).map (true, ·)
    | [] => none
    | _ => some (false, r)
  let (b, any, r) ← hyphens m ⟨negated, none, .empty⟩ r
  match r with
  | ']' :: _ => if any then some (b, r) else (m.next? r).map (b.add (.singleton ']'), ·)
  | _ => some (b, r)

end Bracket

/-- An ASCII class behind an opening bracket, if one is there. -/
def asciiClass? (t : Text) : Option (Bool × CharacterSet × Text) :=
  match t with
  | ':' :: r =>
    let (negated, r) := match r with
      | '^' :: r => (true, r)
      | r => (false, r)
    match r.dropWhile (· != ':') with
    | ':' :: ']' :: rest =>
      (asciiClasses.find? (·.1.toList = r.takeWhile (· != ':'))).map fun e =>
        (negated, .ofRanges e.2, rest)
    | _ => none
  | _ => none

/-- A single item, before it is known whether a range begins with it. -/
def setItem (m : Mode) (t : Text) : Option (Element × Text) :=
  match t with
  | [] => none
  | '\\' :: cs => escape m cs
  | c :: cs => some (.char c false, cs)

/-- The character that an item stands for. -/
def Element.char? (m : Mode) : Element → Option Char
  | .char c _ => if m.ascii && 128 ≤ c.toNat then none else some c
  | _ => none

/-- An item or a range of two. -/
def setRange (m : Mode) (t : Text) : Option (CharacterSet × Text) := do
  let (first, r) ← setItem m t
  let r := m.skip r
  let single : Option (CharacterSet × Text) := match first with
    | .set s => some (s, r)
    | e => (e.char? m).map (.singleton ·, r)
  match r with
  | [] => none
  | c :: cs =>
    if c != '-' then single
    else match (m.skip cs).head? with
      | some ']' | some '-' => single
      | _ => do
        let (last, r) ← setItem m (m.skip cs)
        let a ← first.char? m
        let b ← last.char? m
        guard (a ≤ b)
        some (.range a b, r)

/-- The set in brackets, read from inside the innermost one on. -/
def readSet (m : Mode) : Nat → Bracket → List Bracket → Text → Option (CharacterSet × Text)
  | 0, _, _, _ => none
  | fuel + 1, b, outer, t =>
    match m.skip t with
    | [] => none
    | '[' :: r =>
      match asciiClass? r with
      | some (negated, s, rest) => do
        let s ← m.negate negated (m.fold s)
        readSet m fuel (b.add s) outer rest
      | none => do
        let (inner, rest) ← Bracket.start m r
        readSet m fuel inner (b :: outer) rest
    | ']' :: r => do
      let s ← b.close m
      match outer with
      | [] => some (s, r)
      | o :: os => readSet m fuel (o.add s) os r
    | c :: cs =>
      match SetOperator.ofSign? c, decide (cs.head? = some c) with
      | some o, true => readSet m fuel (b.operate m o) outer (cs.drop 1)
      | _, _ => do
        let (s, r) ← setRange m (c :: cs)
        readSet m fuel (b.add s) outer r

/-- The set in brackets behind an opening bracket. -/
def bracketed (m : Mode) (t : Text) : Option (CharacterSet × Text) := do
  let (b, r) ← Bracket.start m t
  readSet m (r.length + 1) b [] r

end ScriptStyle.Pattern
