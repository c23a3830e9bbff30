import ScriptStyle.Text.Basic

/-!
# Paths

A path is a text. What it names is decided by its components: repeated separators and single dots
inside a path do not count, but a dot at its very beginning does. Paths are ordered component by
component, so a directory comes before everything whose name merely begins like it.
-/

namespace ScriptStyle

/-- A part of a path. -/
inductive Component where
  /-- The separator at the beginning of an absolute path. -/
  | root
  /-- A dot at the beginning of a path. -/
  | here
  /-- Two dots. -/
  | parent
  | name (n : Text)
deriving DecidableEq, Repr

namespace Component

/-- The rank of a kind of component. -/
def rank : Component → Nat
  | root => 0
  | here => 1
  | parent => 2
  | name _ => 3

/-- Whether one text comes before another by its characters, or is the same. -/
def leText : Text → Text → Bool
  | [], _ => true
  | _ :: _, [] => false
  | a :: as, b :: bs => a.toNat < b.toNat || (a = b && leText as bs)

/-- Kinds in the order of their ranks, and names by their characters. -/
def le : Component → Component → Bool
  | name m, name n => leText m n
  | a, b => a.rank ≤ b.rank

/-- Lists of components, the first difference deciding. -/
def leList : List Component → List Component → Bool
  | [], _ => true
  | _ :: _, [] => false
  | a :: as, b :: bs => if a = b then leList as bs else a.le b

end Component

namespace Path

/-- The separator between two names. -/
def separator : Char := '/'

/-- The stretches between separators. -/
def segments : Text → List Text
  | [] => [[]]
  | c :: cs =>
    if c = separator then [] :: segments cs
    else match segments cs with
      | [] => [[c]]
      | s :: ss => (c :: s) :: ss

/-- The component that a stretch is, unless it does not count. -/
def component? (segment : Text) : Option Component :=
  if segment = [] || segment = ['.'] then none
  else if segment = ['.', '.'] then some .parent
  else some (.name segment)

/-- The components of a path. -/
def components (p : Text) : List Component :=
  match p with
  | [] => []
  | c :: _ =>
    let inner := (segments p).filterMap component?
    if c = separator then .root :: inner
    else if (segments p).head? = some ['.'] then .here :: inner
    else inner

/-- The order of paths. -/
def le (p q : Text) : Bool := Component.leList (components p) (components q)

/-- Two spellings of one list of components. -/
def same (p q : Text) : Bool := components p = components q

/-- The path of something in a directory. -/
def join (directory name : Text) : Text :=
  if directory = [] then name
  else if directory.getLast? = some separator then directory ++ name
  else directory ++ separator :: name

/-- The name at the end of a path. -/
def fileName? (p : Text) : Option Text :=
  match (components p).getLast? with
  | some (.name n) => some n
  | _ => none

/-- What follows the last dot of the name at the end of a path, if something stands before it. -/
def extension? (p : Text) : Option Text := do
  let n ← fileName? p
  let back := n.reverse
  let ext := back.takeWhile (· != '.')
  match back.drop ext.length with
  | '.' :: _ :: _ => some ext.reverse
  | _ => none

/-- A text in lower case. -/
def lower (t : Text) : Text := t.map Char.toLower

/-- The extensions of scripts. -/
def scriptExtensions : List String := ["js", "mjs", "cjs", "jsx"]

/-- The text is the extension of scripts, whatever its case. -/
def isScriptExtension (ext : Text) : Bool := scriptExtensions.any (·.toList = lower ext)

/-- The path is that of a script. -/
def isScript (p : Text) : Bool := (extension? p).any isScriptExtension

end Path

end ScriptStyle
