import ScriptStyle.Text.Classes

/-!
# Patterns and what they match

A pattern is a regular expression with character sets and assertions about the place it stands at.
A place is a text cut in two. To run a pattern is to move a list of places forward to the list of
all places where a match that began at one of them may end, so neither the order of alternatives nor
the greed of a repetition can make a difference, and a match exists whenever some choice leads to
one.

A pattern matches a text if it does so from some place in it. To match nothing but the whole text a
pattern has to say so by its assertions.
-/

namespace ScriptStyle

/-- A set of characters. -/
inductive CharacterSet where
  | empty
  /-- The characters between two others, both included. -/
  | range (first last : Char)
  /-- The characters of a named class. -/
  | named (c : CharacterClass)
  | union (s t : CharacterSet)
  | inter (s t : CharacterSet)
  | diff (s t : CharacterSet)
  /-- The characters in exactly one of two sets. -/
  | symmDiff (s t : CharacterSet)
  | compl (s : CharacterSet)
  /-- The characters with a variant in case in a set. -/
  | folded (s : CharacterSet)
  /-- The same for ASCII letters alone. -/
  | asciiFolded (s : CharacterSet)

namespace CharacterSet

/-- The character belongs to the set. -/
def contains : CharacterSet → Char → Bool
  | empty, _ => false
  | range first last, c => first ≤ c && c ≤ last
  | named k, c => k.contains c
  | union s t, c => s.contains c || t.contains c
  | inter s t, c => s.contains c && t.contains c
  | diff s t, c => s.contains c && !t.contains c
  | symmDiff s t, c => s.contains c != t.contains c
  | compl s, c => !s.contains c
  | folded s, c => (Characters.variants c).any s.contains
  | asciiFolded s, c => (Characters.asciiVariants c).any s.contains

/-- The set with one character. -/
def singleton (c : Char) : CharacterSet := range c c

/-- The union of some ranges. -/
def ofRanges (rs : List (Char × Char)) : CharacterSet :=
  rs.foldr (fun r s => union (range r.1 r.2) s) empty

end CharacterSet

/-- Which characters count as parts of words. -/
inductive WordKind where
  | unicode | ascii

namespace WordKind

/-- The character is part of words. -/
def contains : WordKind → Char → Bool
  | unicode, c => CharacterClass.word.contains c
  | ascii, c => c.isAlphanum || c = '_'

end WordKind

/-- What an assertion asks of the parts of words on both sides of a place. -/
inductive BoundaryKind where
  /-- A word begins or ends. -/
  | edge
  /-- No word begins or ends. -/
  | inside
  /-- A word begins. -/
  | start
  /-- A word ends. -/
  | stop
  /-- No word goes on from before. -/
  | startHalf
  /-- No word goes on behind. -/
  | stopHalf

namespace BoundaryKind

/-- The verdict, given whether parts of words stand before and behind the place. -/
def holds : BoundaryKind → Bool → Bool → Bool
  | edge, before, after => before != after
  | inside, before, after => before == after
  | start, before, after => !before && after
  | stop, before, after => before && !after
  | startHalf, before, _ => !before
  | stopHalf, _, after => !after

end BoundaryKind

/-- Something that may be asked of a place. -/
inductive Assertion where
  | textStart | textEnd
  /-- The text or a line begins. -/
  | lineStart
  /-- The text or a line ends. -/
  | lineEnd
  /-- The same where a carriage return before the line feed belongs to the end of the line. -/
  | returnLineStart
  | returnLineEnd
  | boundary (kind : BoundaryKind) (word : WordKind)

/-- A text cut in two. -/
structure Place where
  /-- The characters before the cut, the nearest first. -/
  before : Text
  /-- The characters behind the cut. -/
  after : Text
deriving DecidableEq

namespace Place

/-- The place at the beginning of a text. -/
def origin (t : Text) : Place := ⟨[], t⟩

/-- The places from one on to the end. -/
def onward (before : Text) : Text → List Place
  | [] => [⟨before, []⟩]
  | c :: cs => ⟨before, c :: cs⟩ :: onward (c :: before) cs

/-- All places of a text. -/
def all (t : Text) : List Place := onward [] t

/-- The place behind one character of a set. -/
def past? (s : CharacterSet) : Place → Option Place
  | ⟨before, c :: cs⟩ => if s.contains c then some ⟨c :: before, cs⟩ else none
  | ⟨_, []⟩ => none

end Place

namespace Assertion

/-- The place is as the assertion wants it. -/
def holds : Assertion → Place → Bool
  | textStart, x => x.before.isEmpty
  | textEnd, x => x.after.isEmpty
  | lineStart, x => x.before.head?.all (· = '\n')
  | lineEnd, x => x.after.head?.all (· = '\n')
  | returnLineStart, x =>
    match x.before with
    | [] => true
    | c :: _ => c = '\n' || (c = '\r' && x.after.head? != some '\n')
  | returnLineEnd, x =>
    match x.after with
    | [] => true
    | c :: _ => c = '\r' || (c = '\n' && x.before.head? != some '\r')
  | boundary kind word, x =>
    kind.holds (x.before.head?.any word.contains) (x.after.head?.any word.contains)

end Assertion

/-- A regular expression. -/
inductive Pattern where
  | empty
  /-- One character of a set. -/
  | set (s : CharacterSet)
  | assertion (a : Assertion)
  | concat (p q : Pattern)
  | alternation (p q : Pattern)
  /-- At least `least` and at most `most` matches one behind the other. -/
  | repetition (p : Pattern) (least : Nat) (most : Option Nat)
  /-- A group that remembers what it matched. -/
  | capture (p : Pattern)

namespace Pattern

/-- A function applied a number of times. -/
def times (f : List Place → List Place) : Nat → List Place → List Place
  | 0, xs => xs
  | n + 1, xs => times f n (f xs)

/-- The places `xs` and those that up to `n` applications of `f` lead to from the places `new` among
them. -/
def closure (f : List Place → List Place) : Nat → List Place → List Place → List Place
  | 0, xs, _ => xs
  | n + 1, xs, new =>
    match (f new).filter fun x => !xs.contains x with
    | [] => xs
    | found => closure f n (xs ++ found) found

/-- A bound on how many rounds of a repetition can lead to further places: each round but the last
has to use up a character. -/
def rounds (xs : List Place) : Nat := (xs.map fun x => x.after.length).foldl max 0 + 1

/-- The places where matches that begin at some places may end. -/
def run : Pattern → List Place → List Place
  | empty, xs => xs
  | set s, xs => xs.filterMap (·.past? s)
  | assertion a, xs => xs.filter a.holds
  | concat p q, xs => q.run (p.run xs)
  | alternation p q, xs =>
    let ys := p.run xs
    ys ++ (q.run xs).filter fun x => !ys.contains x
  | repetition p least most, xs =>
    let ys := times p.run least xs
    let n := match most with
      | some m => min (m - least) (rounds ys)
      | none => rounds ys
    closure p.run n ys ys
  | capture p, xs => p.run xs

/-- Some part of the text matches. -/
def isMatch (p : Pattern) (t : Text) : Bool := !(p.run (Place.all t)).isEmpty

end Pattern

end ScriptStyle
