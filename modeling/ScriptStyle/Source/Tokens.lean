import ScriptStyle.Syntax.Tree
import ScriptStyle.Source.Token

/-!
# The tokens of a tree

Every leaf that has characters and is no blank is one token. Positions are counted along the way,
so the tokens come out in the order of the text.
-/

namespace ScriptStyle

/-- The class of the tokens that leaves of a kind are, blanks being none. -/
def LeafKind.tokenKind? : LeafKind → Option TokenKind
  | .blank => none
  | .comment => some .comment
  | .keyword => some .keyword
  | .punctuator => some .punctuator
  | .name | .property | .shorthand | .optionalChain => some .identifier
  | .number => some .numeric
  | .string => some .string
  | .regex => some .regularExpression
  | .template => some .template

namespace Tree

mutual

/-- The tokens of a tree that begins at `p`. -/
def tokens (p : Position) : Tree → List Token
  | leaf kind chars =>
    match kind.tokenKind?, chars with
    | some k, _ :: _ => [⟨chars, k, .cover p chars⟩]
    | _, _ => []
  | missing _ => []
  | node _ children => tokensOf p children

/-- The tokens of trees that follow one another from `p`. -/
def tokensOf (p : Position) : List Tree → List Token
  | [] => []
  | t :: ts => t.tokens p ++ tokensOf (t.advance p) ts

end

end Tree

end ScriptStyle
