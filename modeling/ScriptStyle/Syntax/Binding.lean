import ScriptStyle.Syntax.Tree

/-!
# Binding patterns

The grammar reads names, accesses and bracketed lists as expressions first and learns from the
lexeme after them, an assignment sign or an arrow, that they were meant to receive values.
`Tree.binds` decides whether a tree can play that part, and `Tree.onlyBinds` recognises the lists
that can play no other, such as one with a default value for a shorthand property.
-/

namespace ScriptStyle

/-- The part of a pattern that a tree stands for. -/
inductive Slot where
  /-- What receives a value. -/
  | target
  /-- A member of a list or the value of a property: a target with or without a default, or the
  target that gathers what is left. -/
  | element
  /-- A property between braces. -/
  | property
deriving DecidableEq

namespace Tree

mutual

/-- Whether a tree can stand in a slot of a pattern. -/
def binds : Slot → Tree → Bool
  | _, leaf .name _ => true
  | _, leaf .keyword chars => chars == ['u', 'n', 'd', 'e', 'f', 'i', 'n', 'e', 'd']
  | slot, leaf .shorthand _ => slot == .property
  | slot, leaf .punctuator _ => slot == .element || slot == .property
  | slot, leaf .blank _ => slot == .element || slot == .property
  | slot, leaf .comment _ => slot == .element || slot == .property
  | _, node .member _ => true
  | _, node .subscript _ => true
  | _, node .arrayPattern _ => true
  | _, node .objectPattern _ => true
  | _, node .array ts => allBind .element ts
  | _, node .object ts => allBind .property ts
  | slot, node .shorthandDefault _ => slot == .property
  | slot, node .pair ts => slot == .property && lastBinds .element ts
  | slot, node .spread ts => slot != .target && lastBinds .target ts
  | slot, node .assignment (t :: _) => slot == .element && binds .target t
  | _, _ => false

/-- Whether all of some trees can stand in a slot. -/
def allBind : Slot → List Tree → Bool
  | _, [] => true
  | slot, t :: ts => binds slot t && allBind slot ts

/-- Whether the last of some trees can stand in a slot. -/
def lastBinds : Slot → List Tree → Bool
  | _, [] => false
  | slot, [t] => binds slot t
  | slot, _ :: t :: ts => lastBinds slot (t :: ts)

end

/-- A list that can be nothing but a pattern. -/
def onlyBinds (t : Tree) : Bool := t.hasKind .arrayPattern || t.hasKind .objectPattern

/-- A part that makes a pattern of the list around it. -/
def forcesPattern : Tree → Bool
  | node .shorthandDefault _ => true
  | node .spread ts => ts.any onlyBinds
  | node .pair ts => ts.any fun t => t.onlyBinds || t.hasKind .spread
  | t => t.onlyBinds

/-- Turns a list into a pattern where one of its parts demands it, and refuses the list where
another part forbids it. -/
def settled? : Tree → Option Tree
  | node .array ts =>
    if ts.any forcesPattern then
      if allBind .element ts then some (node .arrayPattern ts) else none
    else some (node .array ts)
  | node .object ts =>
    if ts.any forcesPattern then
      if allBind .property ts then some (node .objectPattern ts) else none
    else some (node .object ts)
  | t => some t

theorem text_of_settled? {t u : Tree} (h : t.settled? = some u) : u.text = t.text := by
  unfold settled? at h
  split at h
  · split at h
    · split at h
      · cases h; simp
      · cases h
    · cases h; rfl
  · split at h
    · split at h
      · cases h; simp
      · cases h
    · cases h; rfl
  · cases h; rfl

/-- What an assignment sign may follow. -/
def isAssignable (t : Tree) : Bool := t.hasKind .parenthesized || t.binds .target

/-- What an operator with an assignment sign may follow. -/
def isUpdatable (t : Tree) : Bool :=
  t.isLeaf .name || t.hasKind .member || t.hasKind .subscript || t.hasKind .parenthesized

/-- What a template literal or an optional call may directly follow: a literal, a name, or an
expression that ends with a bracket or a name. -/
def isPrimary : Tree → Bool
  | leaf _ _ => true
  | node k _ => k.isPrimary
  | missing _ => false

end Tree

end ScriptStyle
