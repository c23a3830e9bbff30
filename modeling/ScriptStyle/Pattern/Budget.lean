import ScriptStyle.Pattern.Basic

/-!
# The budget of a pattern

A pattern is expanded before it is used, and bounded repetitions are written out. The cost of a
pattern estimates the memory of the expanded form in bytes; a pattern that would take more than ten
mebibytes is refused.
-/

namespace ScriptStyle

namespace CharacterSet

/-- What the ranges of a set cost. -/
def cost : CharacterSet → Nat
  | empty => 0
  | range _ last => if last.toNat < 128 then 8 else 100
  | named .digit => 2000
  | named .space => 200
  | named _ => 10000
  | union s t => s.cost + t.cost
  | inter s t => max s.cost t.cost
  | diff s t => s.cost + t.cost
  | symmDiff s t => s.cost + t.cost
  | compl s => s.cost + 300
  | folded s => 2 * s.cost
  | asciiFolded s => 2 * s.cost

end CharacterSet

namespace Pattern

/-- What a state of the expanded form costs. -/
def stateCost : Nat := 32

/-- The most that a pattern may cost. -/
def budget : Nat := 10 * 1024 * 1024

/-- The pattern can only match the empty text. -/
def isWidthless : Pattern → Bool
  | empty => true
  | set _ => false
  | assertion _ => true
  | concat p q => p.isWidthless && q.isWidthless
  | alternation p q => p.isWidthless && q.isWidthless
  | repetition p _ most => most = some 0 || p.isWidthless
  | capture p => p.isWidthless

/-- What the expanded form of a pattern costs. -/
def cost : Pattern → Nat
  | empty => stateCost
  | set (.range first last) =>
    if first = last then first.utf8Size * stateCost
    else stateCost + (CharacterSet.range first last).cost
  | set s => stateCost + s.cost
  | assertion _ => stateCost
  | concat p q => p.cost + q.cost
  | alternation p q => p.cost + q.cost + 2 * stateCost
  | repetition p least most =>
    let copies := match most with
      | some m => m
      | none => max least 1
    if p.isWidthless then p.cost + stateCost else copies * p.cost + stateCost
  | capture p => p.cost + 2 * stateCost

/-- The pattern is small enough to be used. -/
def isAffordable (p : Pattern) : Bool := p.cost ≤ budget

end Pattern

end ScriptStyle
