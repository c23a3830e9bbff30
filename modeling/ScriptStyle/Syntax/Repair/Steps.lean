import ScriptStyle.Syntax.Tree
import ScriptStyle.Syntax.Lexeme
import ScriptStyle.Text.Basic

/-!
# Steps of a repair

A step wraps some characters or adds a lexeme. The text with some steps taken has blanks where
characters are wrapped, and the spelling of the lexeme where one is added. If that text has a tree,
the steps are grafted onto it: a wrap takes the place of its blanks, and a missing lexeme that of
the added one. The tree then has the characters of the text that was to be repaired.

Right behind a wrap or an added lexeme a statement may end without a semicolon in some places only.
Where it may not, the edited text has blanks at which no statement ends.
-/

namespace ScriptStyle.Repair

/-- A lexeme that can be added. -/
structure Filler where
  /-- What the grammar reads. -/
  spelling : String
  /-- What the lexeme is called. -/
  name : String
deriving DecidableEq

/-- How a statement may end right behind a wrap. -/
inductive Seam where
  /-- As anywhere: the wrap stands between statements. -/
  | statements
  /-- At a closing brace, but not at a line break: an operand stands before the wrap. -/
  | operand
  /-- Only by a semicolon. -/
  | construct
deriving DecidableEq

/-- A step of a repair. Offsets count characters. -/
inductive Step where
  /-- Characters are wrapped. Inside the wrap stand lexemes of their own by their ends, with whether
  they are wrapped once more. -/
  | wrap (start : Nat) (inner : List (Nat × Bool)) (seam : Seam)
  /-- A lexeme is added. `ends` tells whether an automatic semicolon may follow it. -/
  | add (place : Nat) (filler : Filler) (ends : Bool)

namespace Step

/-- The offset behind the characters of a step. -/
def stop : Step → Nat
  | wrap start inner _ => inner.foldl (fun _ x => x.1) start
  | add place _ _ => place

/-- A blank at which no statement ends. -/
def firmBlank : Char := Char.ofNat 0xA0

/-- Characters as they are left behind by a wrap. -/
def blanked (seam : Seam) (t : Text) : Text :=
  match seam with
  | .statements => t.map fun c => if c = '\n' then c else ' '
  | .operand => t.map fun _ => ' '
  | .construct => t.map fun _ => firmBlank

/-- The number of blanks behind a wrap at which no statement ends. -/
def gap (seam : Seam) (behind : Text) : Nat :=
  if seam = .statements then 0 else Lexeme.blanks behind

/-- What is read where a lexeme is added. -/
def padded (f : Filler) (ends : Bool) : Text :=
  ' ' :: f.spelling.toList ++ [if ends then ' ' else firmBlank]

end Step

/-- A text from an offset on with some steps taken. -/
def edited (offset : Nat) (t : Text) : List Step → Text
  | [] => t
  | .wrap start inner seam :: steps =>
    let stop := (Step.wrap start inner seam).stop
    let stop := stop + Step.gap seam (t.drop (stop - offset))
    t.take (start - offset) ++ Step.blanked seam ((t.drop (start - offset)).take (stop - start)) ++
      edited stop (t.drop (stop - offset)) steps
  | .add place f ends :: steps =>
    t.take (place - offset) ++ Step.padded f ends ++ edited place (t.drop (place - offset)) steps

/-- A stretch of an edited text and what stands there in the tree. -/
structure Graft where
  /-- The number of characters before the stretch. -/
  start : Nat
  /-- The number of characters in it. -/
  length : Nat
  /-- What stands there. -/
  tree : Tree

/-- What a wrap holds. -/
def wrapped (offset : Nat) (t : Text) : List (Nat × Bool) → List Tree
  | [] => []
  | (stop, again) :: inner =>
    let blanks := Lexeme.blanks t
    let leaf := Tree.leaf .string ((t.drop blanks).take (stop - offset - blanks))
    .leaf .blank (t.take blanks) :: (if again then .node .error [leaf] else leaf) ::
      wrapped stop (t.drop (stop - offset)) inner

/-- What some steps leave in the tree of the edited text, which has `shift` more characters. -/
def grafts (t : Text) (shift : Nat) : List Step → List Graft
  | [] => []
  | .wrap start inner seam :: steps =>
    let stop := (Step.wrap start inner seam).stop
    let gap := Step.gap seam (t.drop stop)
    ⟨start + shift, stop - start, .node .error (wrapped start (t.drop start) inner)⟩ ::
      ⟨stop + shift, gap, .leaf .blank ((t.drop stop).take gap)⟩ :: grafts t shift steps
  | .add place f ends :: steps =>
    let n := (Step.padded f ends).length
    ⟨place + shift, n, .missing f.name⟩ :: grafts t (shift + n) steps

/-- A leaf as trees, if it has characters. -/
def leafOf (k : LeafKind) (back : Text) : List Tree :=
  if back.isEmpty then [] else [.leaf k back.reverse]

/-- A leaf with the grafts on it. A graft stands where it begins, and the characters that it covers
are left out. -/
def graftLeaf (gs : List Graft) (k : LeafKind) (back : Text) (offset : Nat) : Text → List Tree
  | [] => leafOf k back
  | c :: cs =>
    match gs.find? fun g => g.start ≤ offset && offset < g.start + g.length with
    | none => graftLeaf gs k (c :: back) (offset + 1) cs
    | some g =>
      leafOf k back ++ (if g.start = offset then [g.tree] else []) ++
        graftLeaf gs k [] (offset + 1) cs

mutual

/-- A tree with the grafts on it. -/
def graft (gs : List Graft) (offset : Nat) : Tree → List Tree
  | .leaf k cs => graftLeaf gs k [] offset cs
  | .missing s => [.missing s]
  | .node k ts => [.node k (graftAll gs offset ts)]

/-- Trees with the grafts on them. -/
def graftAll (gs : List Graft) (offset : Nat) : List Tree → List Tree
  | [] => []
  | t :: ts => graft gs offset t ++ graftAll gs (offset + t.text.length) ts

end

end ScriptStyle.Repair
