import ScriptStyle.Syntax.Parse
import ScriptStyle.Syntax.Repair.Pieces
import ScriptStyle.Syntax.Repair.Steps

/-!
# How far a damaged text can be read

The grammar tells the least number of characters ahead wherever it looked for something in vain.
The lexeme there is the first that cannot stand where it does; the statements before it that are
complete stay as they are.
-/

namespace ScriptStyle.Repair

/-- How far an edited text can be read. Lexemes are counted in the text before the edits. -/
structure Progress where
  /-- The tree of all of it. -/
  tree? : Option Tree
  /-- The lexeme behind the last complete statement. -/
  boundary : Nat
  /-- The first lexeme that cannot stand where it does. -/
  failure : Nat

/-- The first lexeme that ends behind an offset. -/
def indexAt (ps : Array Piece) (offset : Nat) : Nat :=
  (ps.findIdx? fun p => !p.isComment && offset < p.stop).getD ps.size

/-- How far a text can be read after some steps. A lexeme without an end is read in vain up to the
end of its line, so the failure is behind it. -/
def progress (text : Text) (ps : Array Piece) (steps : List Step) : Progress :=
  let t := edited 0 text steps
  match Tree.parse? t with
  | some tree => ⟨some tree, ps.size, ps.size⟩
  | none =>
    let r := (Grammar.upTo (Tree.depthFor t.length)).statements
    let start : Cursor := ⟨[], t⟩
    let left := match r.run start with
      | some c => c.rest.length
      | none => t.length
    let failure := indexAt ps (text.length - r.reach start)
    ⟨none, indexAt ps (text.length - left),
      if (ps[failure]?).any (·.isOpen) then failure + 1 else failure⟩

end ScriptStyle.Repair
