import ScriptStyle.Pattern.Budget
import ScriptStyle.Pattern.ReadSet

/-!
# Reading a pattern

The groups that are open form a stack, the innermost on top. What has been read of a group is its
finished branches and the items of the last one. An item is a pattern, or a change of mode, which
cannot be repeated.

`Pattern.ofText?` refuses what is not well formed and what is too large to be used.
-/

namespace ScriptStyle.Pattern

/-- What has been read of a group. -/
structure Group where
  /-- The group remembers what it matches. -/
  capturing : Bool
  /-- The mode in which the text behind the group is read. -/
  outerMode : Mode
  /-- The finished branches, the last one first. -/
  branches : List Pattern := []
  /-- The items of the branch at hand, the last one first; changes of mode are left empty. -/
  items : List (Option Pattern) := []

namespace Group

/-- One more item. -/
def add (g : Group) (p : Pattern) : Group := { g with items := some p :: g.items }

/-- The items of the branch at hand, one behind the other. -/
def branch (g : Group) : Pattern :=
  match g.items.filterMap id with
  | [] => .empty
  | p :: ps => ps.foldl (fun q r => .concat r q) p

/-- The branch at hand becomes a finished one. -/
def split (g : Group) : Group := { g with branches := g.branch :: g.branches, items := [] }

/-- All branches, each one an alternative. -/
def pattern (g : Group) : Pattern := g.branches.foldl (fun q p => .alternation p q) g.branch

/-- The item that the group is once it is closed. -/
def close (g : Group) : Pattern := if g.capturing then .capture g.pattern else g.pattern

/-- The last item repeated. -/
def repeated (g : Group) (least : Nat) (most : Option Nat) : Option Group :=
  match g.items with
  | some p :: items => some { g with items := some (.repetition p least most) :: items }
  | _ => none

end Group

/-- What has been read of a pattern. -/
structure Progress where
  /-- How the rest is read. -/
  mode : Mode
  /-- The names of groups that are taken. -/
  names : List Text
  /-- The innermost open group, or the whole pattern. -/
  group : Group
  /-- The groups around it. -/
  outer : List Group

namespace Progress

/-- Nothing has been read. -/
def start : Progress := ⟨{}, [], ⟨false, {}, [], []⟩, []⟩

/-- One more item in the innermost group. -/
def add (g : Progress) (p : Pattern) : Progress := { g with group := g.group.add p }

/-- A group inside the innermost one. -/
def enter (g : Progress) (capturing : Bool) (inside : Mode) : Progress :=
  { g with mode := inside, group := ⟨capturing, g.mode, [], []⟩, outer := g.group :: g.outer }

/-- The innermost group is closed. -/
def leave (g : Progress) : Option Progress :=
  match g.outer with
  | [] => none
  | o :: os =>
    some { g with mode := g.group.outerMode, group := o.add g.group.close, outer := os }

/-- What stands behind an opening parenthesis up to the first item of the group. -/
def parenthesis (g : Progress) (t : Text) : Option (Progress × Text) :=
  let named (t : Text) : Option (Progress × Text) := do
    let (name, r) ← groupName [] t
    guard !g.names.contains name
    some ({ g.enter true g.mode with names := name :: g.names }, r)
  match g.mode.skip t with
  | '?' :: 'P' :: '<' :: r => named r
  | '?' :: '<' :: r => match r with
    | '=' :: _ | '!' :: _ => none
    | _ => named r
  | '?' :: r => do
    let (m, any, closed, r) ← flags g.mode [] true false r
    if closed then
      guard any
      some ({ g with mode := m, group := { g.group with items := none :: g.group.items } }, r)
    else some (g.enter false m, r)
  | r => some (g.enter true g.mode, r)

/-- The last item repeated, and a question mark behind the sign of repetition passed over. -/
def repeated (g : Progress) (least : Nat) (most : Option Nat) (t : Text) :
    Option (Progress × Text) := do
  let group ← g.group.repeated least most
  some ({ g with group }, match t with
    | '?' :: r => r
    | r => r)

/-- An element as an item. -/
def addElement (g : Progress) : Element → Option Progress
  | .char c byte =>
    if byte && g.mode.ascii && 128 ≤ c.toNat then none
    else some (g.add (.set (g.mode.fold (.singleton c))))
  | .set s => some (g.add (.set s))
  | .assertion a => some (g.add (.assertion a))

/-- The progress made by what begins with the character `c`. -/
def step (g : Progress) (c : Char) (t : Text) : Option (Progress × Text) :=
  match c with
  | '(' => g.parenthesis t
  | ')' => g.leave.map (·, t)
  | '|' => some ({ g with group := g.group.split }, t)
  | '[' => (bracketed g.mode t).map fun (s, r) => (g.add (.set s), r)
  | '?' => g.repeated 0 (some 1) t
  | '*' => g.repeated 0 none t
  | '+' => g.repeated 1 none t
  | '\\' => do
    let (e, r) ← escape g.mode t
    some (← g.addElement e, r)
  | '.' => g.mode.dot.map fun s => (g.add (.set s), t)
  | '^' => some (g.add (.assertion g.mode.start), t)
  | '$' => some (g.add (.assertion g.mode.stop), t)
  | _ =>
    if c.toNat = 123 then do
      match g.mode.skip t with
      | [] => none
      | r =>
        let ((least, most), r) ← counts g.mode r
        g.repeated least most (g.mode.skip r)
    else (g.addElement (.char c false)).map (·, t)

/-- The pattern once the whole text has been read. -/
def finish (g : Progress) : Option Pattern :=
  match g.outer with
  | [] => some g.group.pattern
  | _ => none

/-- The pattern that the rest of a text makes of what has been read. -/
def read : Nat → Progress → Text → Option Pattern
  | 0, _, _ => none
  | fuel + 1, g, t =>
    match g.mode.skip t with
    | [] => g.finish
    | c :: cs => (g.step c cs).bind fun (g', r) => read fuel g' r

end Progress

/-- The pattern that a text spells. -/
def ofText? (t : Text) : Option Pattern := do
  let p ← Progress.start.read (t.length + 1) t
  guard p.isAffordable
  some p

end ScriptStyle.Pattern
