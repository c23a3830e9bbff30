import ScriptStyle.Syntax.Tree
import ScriptStyle.Text.Basic

/-!
# Damage in a tree

A tree is damaged where it wraps lexemes that fit nowhere and where a lexeme is missing. Damage is
reported in the order of the text, the outer of two wraps first, with the characters it covers.

Whether there is damage at all can be found out without a look at every node. A mark on a node says
that some part of it is damaged, and the search passes over the nodes without one.
-/

namespace ScriptStyle

/-- A place where a tree is damaged. -/
structure Damage where
  /-- The number of bytes before it. -/
  start : Nat
  /-- The number of bytes up to its end. -/
  stop : Nat
  /-- Where it begins. -/
  place : Position
  /-- The characters that it covers, or the first of them. -/
  context : Text
  /-- What is wrong. -/
  message : Text
deriving DecidableEq, Repr

namespace Damage

/-- The number of bytes up to which characters are shown in full. -/
def contextLimit : Nat := 50

/-- Characters as they are shown: too many are cut off. -/
def shown (chars : Text) : Text :=
  if contextLimit < Text.byteSize chars then chars.take (contextLimit - 3) ++ "...".toList
  else chars

/-- What is said about characters that fit nowhere. -/
def wrapMessage : Text := "syntax error".toList

/-- What is said about a missing lexeme. -/
def missingMessage (spelling : String) : Text := "missing ".toList ++ spelling.toList

/-- The line, counted from one. -/
def line (d : Damage) : Nat := d.place.line

/-- The column, counted from one. -/
def column (d : Damage) : Nat := d.place.column + 1

end Damage

namespace Tree

mutual

/-- Some part of a tree is damaged. -/
def isDamaged : Tree → Bool
  | leaf _ _ => false
  | missing _ => true
  | node k ts => k = .error || anyDamaged ts

/-- Some part of some trees is damaged. -/
def anyDamaged : List Tree → Bool
  | [] => false
  | t :: ts => t.isDamaged || anyDamaged ts

end

mutual

/-- A search for damage that only enters nodes with a mark. -/
def findsDamage (marks : Tree → Bool) : Tree → Bool
  | leaf _ _ => false
  | missing _ => true
  | node k ts => k = .error || marks (node k ts) && anyFindsDamage marks ts

/-- The search goes through trees up to the first with damage. -/
def anyFindsDamage (marks : Tree → Bool) : List Tree → Bool
  | [] => false
  | t :: ts => t.findsDamage marks || anyFindsDamage marks ts

end

/-- The search where every damaged node has a mark. -/
def hasDamage (t : Tree) : Bool := t.findsDamage isDamaged

mutual

/-- The damage in a tree that begins at a place with a number of bytes before it. -/
def damageFrom (offset : Nat) (p : Position) : Tree → List Damage
  | leaf _ _ => []
  | missing spelling => [⟨offset, offset, p, [], Damage.missingMessage spelling⟩]
  | node k ts =>
    let inner := damageFromAll offset p ts
    if k = .error then
      let chars := textOf ts
      ⟨offset, offset + Text.byteSize chars, p, Damage.shown chars, Damage.wrapMessage⟩ :: inner
    else inner

/-- The damage in trees that follow one another. -/
def damageFromAll (offset : Nat) (p : Position) : List Tree → List Damage
  | [] => []
  | t :: ts =>
    damageFrom offset p t ++ damageFromAll (offset + Text.byteSize t.text) (t.advance p) ts

end

/-- All damage in a tree. -/
def damage (t : Tree) : List Damage := damageFrom 0 .origin t

end Tree

end ScriptStyle
