import ScriptStyle.Syntax.Damage
import ScriptStyle.Syntax.Repair.Search

/-!
# The tree of any text

A text without an undamaged tree has a damaged one, in which the cheapest repair shows. Where the
search for a repair takes too long, the whole text is wrapped.
-/

namespace ScriptStyle.Tree

/-- The tree of a text that has no undamaged one. -/
def repair (text : Text) : Tree :=
  (Repair.search text (Repair.pieces text) Repair.searchLimit [.start]).getD
    (.node .program [.node .error [.leaf .string text]])

/-- The tree of a text. -/
def ofText (text : Text) : Tree :=
  match parse? text with
  | some t => t
  | none => repair text

end ScriptStyle.Tree
