import ScriptStyle.Syntax.Grammar.Expression
import ScriptStyle.Syntax.Repair.Pieces

/-!
# The surroundings of a failure

In front of a failure the lexemes have been put together: a pair of brackets with what it holds is
one construct, and so is an access with the operand before it. A wrap begins where a construct
begins. Behind the failure every lexeme stands on its own.
-/

namespace ScriptStyle.Repair

/-! ## Constructs -/

/-- For the lexemes in front of a failure, the last of them first, whether they stand inside of a
construct: inside of brackets that are closed, or as a part that belongs to the operand before.
`depth` counts the brackets that are closed further behind. -/
def insideBack (depth : Nat) (isLast : Bool) : List Piece → List Bool
  | [] => []
  | p :: back =>
    let after := if p.closes then depth + 1 else if p.opens then depth - 1 else depth
    let behindOperand := back.head?.any fun q => q.isOperand && !Word.statements.contains q.chars
    let isArgument := p.opens && 0 < depth && behindOperand && !p.isLexeme "\x7b"
    let belongs := match back.head? with
      | none => false
      | some q =>
        !isLast && (p.isAmong [".", "?."] || q.isAmong [".", "?."]) ||
          q.isOperand && p.isAmong ["++", "--"]
    (0 < after || isArgument || belongs) :: insideBack after false back

/-- Which lexemes in front of a failure stand inside of a construct. -/
def insideMarks (ps : Array Piece) (failure : Nat) : Array Bool :=
  (insideBack 0 true (ps.extract 0 failure).toList.reverse).reverse.toArray

/-- The number of constructs that a lexeme counts for on its own. Behind a failure a string counts
for its two quotes and what they hold. -/
def weight (failure i : Nat) (p : Piece) : Nat :=
  if p.isComment then 0
  else if failure ≤ i && (p.chars.head? = some '"' || p.chars.head? = some '\'') then 3
  else 1

/-- The running sums of some numbers. -/
def sums (total : Nat) : List Nat → List Nat
  | [] => [total]
  | n :: ns => total :: sums (total + n) ns

/-- What is known about the lexemes around a failure. -/
structure Surroundings where
  /-- The first lexeme that cannot stand where it does. -/
  failure : Nat
  /-- Which lexemes before it stand inside of a construct. -/
  inside : Array Bool
  /-- The number of constructs in front of each lexeme. -/
  counts : Array Nat

namespace Surroundings

/-- What is known about the lexemes around a failure. -/
def of (ps : Array Piece) (failure : Nat) : Surroundings :=
  let inside := insideMarks ps failure
  let weights := ps.toList.zipIdx.map fun (p, i) =>
    if (inside[i]?).getD false then 0 else weight failure i p
  ⟨failure, inside, (sums 0 weights).toArray⟩

/-- A lexeme stands inside of a construct that began before it. -/
def isInside (s : Surroundings) (i : Nat) : Bool := (s.inside[i]?).getD false

/-- The number of constructs that a wrap holds. Its first lexeme always counts for itself. -/
def constructs (s : Surroundings) (ps : Array Piece) (first last : Nat) : Nat :=
  ((ps[first]?).map (weight s.failure first)).getD 0 +
    ((s.counts[last]?).getD 0 - (s.counts[first + 1]?).getD 0)

end Surroundings

/-! ## What stands before a lexeme -/

/-- The bracket that belongs to one that is closed further behind, where `depth` more are. -/
def opener? (ps : Array Piece) (depth : Nat) : Nat → Option Nat
  | 0 => none
  | i + 1 =>
    match ps[i]? with
    | none => none
    | some p =>
      if p.closes then opener? ps (depth + 1) i
      else if p.opens then if depth = 0 then some i else opener? ps (depth - 1) i
      else opener? ps depth i

/-- Only an operand stands between a lexeme and the beginning of its statement or the bracket around
it. `any` tells whether a part of one was found further behind. -/
def followsOperand (ps : Array Piece) (any : Bool) : Nat → Nat → Bool
  | 0, _ => any
  | _, 0 => any
  | fuel + 1, i + 1 =>
    match ps[i]? with
    | none => any
    | some p =>
      if p.closes then match opener? ps 0 i with
        | some o => followsOperand ps true fuel o
        | none => any
      else if p.opens || p.isLexeme ";" then any
      else if p.isLexeme "." then followsOperand ps any fuel i
      else if p.isOperand && !Word.statements.contains p.chars then
        followsOperand ps true fuel i
      else false

/-- The lexemes behind which a brace is part of a value or of a declaration. -/
def beforeBraces : List String :=
  ["let", "const", "var", "export", "import", "=", "(", "[", ",", ":", "return"]

/-- A statement begins at a lexeme, and it is the first in its list. -/
def isFirst (ps : Array Piece) : Nat → Bool
  | 0 => true
  | i + 1 =>
    (ps[i]?).any (·.isLexeme "\x7b") && !(0 < i && (ps[i - 1]?).any (·.isAmong beforeBraces))

/-- A statement begins at a lexeme, and it is not the first in its list. -/
def isLater (ps : Array Piece) (i : Nat) : Bool :=
  0 < i && (ps[i - 1]?).any (·.isAmong [";", "\x7d"])

/-- The strength with which a mark binds what stands around it. -/
def strength (p : Piece) : Nat :=
  if p.isAmong [".", "?.", "(", "["] then Level.call
  else if p.isAmong ["in", "instanceof"] then Level.relation
  else match Grammar.binaryLevels.lookup p.chars with
    | some n => n
    | none => if p.isLexeme "," then 0 else 1

end ScriptStyle.Repair
