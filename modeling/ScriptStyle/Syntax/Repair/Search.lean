import ScriptStyle.Syntax.Repair.Attempt

/-!
# The cheapest repair

Attempts are looked at in the order of their prices. One goes on only if the text can be read
further with it, and as soon as the statement with the damage is complete no other attempt is left.
-/

namespace ScriptStyle.Repair

/-! ## Where a repair may end -/

/-- A closing brace that was added. -/
def isAddedBrace : Tree → Bool
  | .missing s => s = "\x7d"
  | _ => false

mutual

/-- A closing brace that was added at the very end of a tree closes statements or members. In the
body of an arrow function there is at least one statement. -/
def closesBlock (arrow : Bool) : Tree → Bool
  | .leaf _ _ => true
  | .missing _ => true
  | .node k ts =>
    if (ts.reverse.find? (!·.isTrivia)).any isAddedBrace then
      match k with
      | .block => !arrow || ts.any (·.isStatement)
      | .classBody => true
      | .switchBody => !ts.any (·.hasKind .switchCase)
      | _ => false
    else lastClosesBlock (k = .arrow) ts

/-- A closing brace that was added at the very end of some trees closes statements or members. -/
def lastClosesBlock (arrow : Bool) : List Tree → Bool
  | [] => true
  | t :: ts => if ts.all (·.isTrivia) then closesBlock arrow t else lastClosesBlock arrow ts

end

/-- The tree of an edited text with the steps on it, if they may be taken. -/
def finish (text : Text) (steps : List Step) (t : Tree) : Option Tree :=
  match graft (grafts text 0 steps) 0 t with
  | [t] => if closesBlock false t then some t else none
  | _ => none

/-! ## The search -/

/-- How much cheaper an attempt has to be, for each of the two nodes that a lexeme is worth, in
order to rule out another that has not come as far. -/
def patience : Nat := 1800

/-- An attempt `b` may still be the cheapest although `a` can be read up to a failure: it has come
as far or is not much dearer, it does not skip what `a` has repaired for less, and it is not the
same wrap with a later beginning. -/
def mayFollow (a : Attempt) (failure : Nat) (b : Attempt) : Bool :=
  (failure ≤ b.settled ||
      (b.price - a.price) * (1 + 2 * (failure - a.settled)) ≤ patience) &&
    !(a.price < b.skipped && b.settled ≤ failure) &&
    !(a.round = b.round && a.settled = b.settled && b.first < a.first)

/-- The first tree among some attempts, the cheapest of them first, and those that go on from
them. -/
def search (text : Text) (ps : Array Piece) : Nat → List Attempt → Option Tree
  | 0, _ => none
  | _ + 1, [] => none
  | fuel + 1, a :: queue =>
    let p := progress text ps a.steps
    match p.tree? with
    | some t =>
      match finish text a.steps t with
      | some t => some t
      | none => search text ps fuel queue
    | none =>
      if !a.steps.isEmpty && p.failure ≤ a.settled then search text ps fuel queue
      else
        let queue := if a.settled < p.boundary then [] else queue.filter (mayFollow a p.failure)
        search text ps fuel
          ((wraps text ps fuel a p ++ adds ps a p).foldl (fun queue b => b.insert queue) queue)

/-- The number of attempts that are looked at. -/
def searchLimit : Nat := 400

end ScriptStyle.Repair
