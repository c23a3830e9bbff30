import ScriptStyle.Text.Basic

/-!
# Similar words

Two words are similar if they share many characters at about the same places. The share of common
characters in each word and the share of those in the same order are added up; words whose sum is
more than seven tenths of what equal words have count as similar.
-/

namespace ScriptStyle

/-- How much two words have in common, as a fraction of numerator and denominator. -/
structure Similarity where
  numerator : Nat
  denominator : Nat

namespace Similarity

/-- The fraction is at most another. -/
def le (x y : Similarity) : Bool := x.numerator * y.denominator ≤ y.numerator * x.denominator

/-- The place of a character among the unused ones of a word, between two bounds. -/
def findUnused (c : Char) (low high : Nat) (i : Nat) : List (Char × Bool) → Option Nat
  | [] => none
  | (d, used) :: ds =>
    if high ≤ i then none
    else if low ≤ i && c = d && !used then some i
    else findUnused c low high (i + 1) ds

/-- The characters of the first word that have a partner in the second one, and the second word with
the partners marked. -/
def pair (range : Nat) (i : Nat) (word : List (Char × Bool)) :
    Text → List Char × List (Char × Bool)
  | [] => ([], word)
  | c :: cs =>
    match findUnused c (i - range) (i + range + 1) 0 word with
    | some j =>
      let (found, word) := pair range (i + 1) (word.modify j fun x => (x.1, true)) cs
      (c :: found, word)
    | none => pair range (i + 1) word cs

/-- How much two words have in common. -/
def of (s t : Text) : Similarity :=
  let range := max s.length t.length / 2 - 1
  let (found, word) := pair range 0 (t.map (·, false)) s
  let partners := (word.filter (·.2)).map (·.1)
  let swapped := ((found.zip partners).filter fun x => x.1 != x.2).length / 2
  let m := found.length
  if m = 0 then ⟨0, 1⟩
  else ⟨m * m * t.length + m * m * s.length + (m - swapped) * s.length * t.length,
    3 * s.length * t.length * m⟩

/-- The words have enough in common. -/
def isHigh (x : Similarity) : Bool := 7 * x.denominator < 10 * x.numerator

/-- The most similar of some words, the last one of several. -/
def best? (word : Text) (candidates : List Text) : Option Text :=
  let found := (candidates.map fun c => (of word c, c)).filter (·.1.isHigh)
  (found.foldl (fun best x => match best with
    | none => some x
    | some b => if b.1.le x.1 then some x else some b) none).map (·.2)

end Similarity

end ScriptStyle
