import ScriptStyle.Syntax.Repair.Progress
import ScriptStyle.Syntax.Repair.Surroundings

/-!
# Attempts at a repair

An attempt is some steps with a price. It goes on at the first lexeme that cannot stand where it
does: with a wrap of lexemes that end in front of it or go on behind it, or with a lexeme that is
added in front of it. Every step costs the same for the damage that it is; a wrap costs more with
everything it holds, and an added lexeme costs about as much as a wrap of one.
-/

namespace ScriptStyle.Repair

/-! ## Prices -/

/-- The price of any damage. -/
def damagePrice : Nat := 500

/-- The price of a construct in a wrap. -/
def constructPrice : Nat := 100

/-- The price of a line break in a wrap. -/
def linePrice : Nat := 30

/-- The price of a wrap. Every byte in it costs one. -/
def wrapPrice (chars : Text) (constructs : Nat) : Nat :=
  damagePrice + constructPrice * constructs + chars.byteSize + linePrice * chars.count '\n'

/-- The price of an added lexeme: that of a wrap of ten bytes. -/
def addPrice : Nat := damagePrice + constructPrice + 10

/-! ## Attempts -/

/-- A repair that may not be finished. -/
structure Attempt where
  /-- What it costs. -/
  price : Nat
  /-- Among attempts of one price the one with the least rank comes first. -/
  rank : Nat
  /-- The steps taken. -/
  steps : List Step
  /-- The number of lexemes that the steps have dealt with. -/
  settled : Nat
  /-- What it had cost when the last lexeme was skipped, and zero if none was. -/
  skipped : Nat
  /-- The number of attempts that were still to be looked at when it was made. -/
  round : Nat
  /-- The lexeme that its last step begins with. -/
  first : Nat

namespace Attempt

/-- Nothing is repaired yet. -/
def start : Attempt := ⟨0, 0, [], 0, 0, 0, 0⟩

/-- An attempt among others, the cheaper ones first. -/
def insert (a : Attempt) : List Attempt → List Attempt
  | [] => [a]
  | b :: bs =>
    if b.price < a.price || (b.price = a.price && b.rank ≤ a.rank) then b :: a.insert bs
    else a :: b :: bs

end Attempt

/-! ## Wraps -/

/-- Of two wraps of one price, one before a failure and one behind it, the one before is chosen: the
lexeme that cannot stand there binds more tightly than the operator before, takes the place of an
operand or a comma before, or follows the equals sign of a declaration. -/
def prefersEarlier (ps : Array Piece) (failure : Nat) : Bool :=
  match ps[failure - 1]?, ps[failure]? with
  | some p, some q =>
    if p.isOperand then
      (ps[failure + 1]?).any fun next => !next.isAmong [";", ",", ")", "]", "\x7b", "\x7d"]
    else
      strength p < strength q || p.isLexeme "," && q.isLexeme "," ||
        p.isLexeme "=" && q.isLexeme "=" &&
          (ps[failure - 3]?).any (·.isAmong ["let", "const", "var"])
  | _, _ => false

/-- The rank of a wrap. -/
def wrapRank (ps : Array Piece) (failure first last : Nat) : Nat :=
  let endsBefore := last = failure && prefersEarlier ps failure
  if isFirst ps first then 0
  else if first + 1 = failure && (endsBefore || last = failure + 1) then 1
  else if first = failure then 2
  else 3

/-- The characters from the beginning of one lexeme to the end of another. -/
def charsBetween (text : Text) (ps : Array Piece) (first last : Nat) : Text :=
  let start := ((ps[first]?).map (·.start)).getD 0
  let stop := ((ps[last]?).map (·.stop)).getD 0
  (text.drop start).take (stop - start)

/-- The wrap of some lexemes as a step behind an attempt. A statement that is not the first in its
list is complete in front of a failure, so adding a lexeme behind it comes before wrapping it. -/
def wrapAttempt (text : Text) (ps : Array Piece) (a : Attempt) (s : Surroundings) (boundary : Nat)
    (round first last : Nat) : Attempt :=
  let failure := s.failure
  let wrapped := ((ps.extract first last).toList.reverse.dropWhile (·.isComment)).reverse
  let start := ((ps[first]?).map (·.start)).getD 0
  let seam :=
    if first = boundary then .statements else if first = failure then .operand else .construct
  let step := Step.wrap start
    (wrapped.zipIdx.map fun (p, i) => (p.stop, failure ≤ first + i && p.isUnknown)) seam
  let price := wrapPrice ((text.drop start).take (step.stop - start)) (s.constructs ps first last)
  let isComplete :=
    isLater ps first && last = failure && !(ps[first]?).any (·.isLexeme "else")
  let skipped :=
    if last ≤ failure + 1 then 0
    else
      a.price +
        wrapPrice (charsBetween text ps failure (last - 2)) (s.constructs ps failure (last - 1))
  ⟨a.price + if isComplete then max price (addPrice + 1) else price, wrapRank ps failure first last,
    a.steps ++ [step], last, skipped, round, first⟩

/-- The lexemes behind a failure up to which a wrap may go on. -/
def wrapLimit : Nat := 8

/-- The attempts that go on with a wrap. One that begins where a statement does may go on to the end
of the text. -/
def wraps (text : Text) (ps : Array Piece) (round : Nat) (a : Attempt) (p : Progress) :
    List Attempt :=
  let n := ps.size
  let low := max p.boundary a.settled
  let s := Surroundings.of ps p.failure
  let mayBegin (i : Nat) : Bool :=
    low ≤ i && !(ps[i]?).any (·.isComment) && (i = p.failure || !s.isInside i)
  let starts := (List.range (min (p.failure + 1) n)).filter mayBegin
  starts.flatMap fun i =>
    let ends := ((List.range (wrapLimit + 1)).map (p.failure + ·)).filter fun j => i < j && j < n
    let whole := i = low || isLater ps i
    (if whole then ends ++ [n] else ends).map (wrapAttempt text ps a s p.boundary round i)

/-! ## Added lexemes -/

/-- Wrapping the lexeme before a failure and adding one behind it lead to the same place: the lexeme
is an operator with only an operand before it. -/
def isDirect (ps : Array Piece) (failure : Nat) : Bool :=
  let isOperator := (ps[failure - 1]?).any fun p =>
    !p.isOperand && !p.isAmong ["=", "?", ".", "?.", "=>", ","]
  let isChoice := (ps[failure - 1]?).any (·.isLexeme "?") && (ps[failure]?).any (·.isLexeme ":")
  (isOperator || isChoice) && followsOperand ps false ps.size (failure - 1)

/-- A bracket opens in front of a failure, and it has to hold a value. -/
def needsValue (ps : Array Piece) (failure : Nat) : Bool :=
  let bracket (spelling : String) : Bool := (ps[failure - 1]?).any (·.isLexeme spelling)
  bracket "[" && (ps[failure - 2]?).any (·.isOperand) ||
    bracket "(" && (ps[failure - 2]?).any (·.isAmong ["if", "while", "switch", "with"])

/-- The attempts that go on with an added lexeme. -/
def adds (ps : Array Piece) (a : Attempt) (p : Progress) : List Attempt :=
  match ps[p.failure - 1]? with
  | none => []
  | some before =>
    let next := ps[p.failure]?
    let add (price rank : Nat) (spelling name : String) (ends : Bool) : Attempt :=
      ⟨a.price + price, rank, a.steps ++ [.add before.stop ⟨spelling, name⟩ ends], p.failure, 0, 0,
        p.failure⟩
    let statement (spelling : String) := add addPrice 4 spelling spelling next.isNone
    let part (spelling name : String) :=
      if isDirect ps p.failure then add (wrapPrice before.chars 1) 0 spelling name false
      else add addPrice 4 spelling name false
    let isOperandMissing := (!before.opens || needsValue ps p.failure) &&
      next.any (·.isAmong [";", ")", "]", "\x7d", ",", ":"])
    if p.failure = 0 then []
    else
      [statement "\x7d"] ++ (if next.any (·.isLexeme "else") then [] else [statement ";"]) ++
        [part ")" ")", part "]" "]"] ++ (if isOperandMissing then [part "x" "identifier"] else [])

end ScriptStyle.Repair
