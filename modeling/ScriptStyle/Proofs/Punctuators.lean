import ScriptStyle.Proofs.Spacing
import ScriptStyle.Proofs.Spellings
import ScriptStyle.Proofs.Tokens

/-!
# Rules for punctuators

The check of spaces looks at the tokens that are operators or words, and whether a token is one
depends on the kind of its leaf. What a maintainer of the settings sees is the characters. A leaf
that is spelled like a punctuator and is no comment and no literal is a punctuator, so the rules for
its operator are tried on it (`Spacing.check_punctuators`). The one exception is the mark of an
optional access: the grammar has a kind of its own for it, its tokens count as names, and no rule for
it is ever tried.
-/

namespace ScriptStyle

namespace LeafKind

/-- The leaves of a kind are neither blanks nor comments nor literals. -/
def isSyntax : LeafKind → Bool
  | keyword | punctuator | name | property | shorthand | optionalChain => true
  | blank | comment | number | string | regex | template => false

/-- A leaf that is spelled like a punctuator makes a token for the rules about operators unless it is
the mark of an optional access. -/
theorem exists_tokenKind {kind : LeafKind} {chars : Text} (hfits : kind.Fits chars)
    (hkind : kind.isSyntax = true) (hmem : chars ∈ Lexeme.punctuators) :
    ∃ k, kind.tokenKind? = some k ∧
      (k.isOperatorLike = true ↔ chars ≠ Lexeme.optionalMark) := by
  cases kind with
  | punctuator => exact ⟨.punctuator, rfl, fun _ => hfits.1, fun _ => rfl⟩
  | optionalChain => exact ⟨.identifier, rfl, nofun, fun h => absurd hfits h⟩
  | keyword => exact absurd hmem hfits.1
  | name | property | shorthand => exact absurd hmem hfits
  | blank | comment | number | string | regex | template => cases hkind

end LeafKind

/-- A leaf of the tree that is neither a blank nor a comment nor a literal has these characters and
stands behind this text, and the characters are those of a punctuator. -/
def Tree.HasPunctuator (t : Tree) (before chars : Text) : Prop :=
  ∃ kind behind, Holds [t] before (.leaf kind chars) behind ∧ kind.isSyntax = true ∧
    chars ∈ Lexeme.punctuators

namespace Spacing

/-- The warning that the rules ask for at a token, whatever its class is. -/
def ruleAt? (style : SpacesStyle) (filename : Text) (s : TokenSite) : Option Diagnostic :=
  (Side.all.find? fun side =>
    side.lists style s.token.value && side.isViolated s.before s.after).map fun side =>
    .warning .spacesStyle (side.message s.token.value) filename (s.before.count '\n')

theorem dueAt?_eq (style : SpacesStyle) (filename : Text) (s : TokenSite) :
    dueAt? style filename s =
      if s.token.kind.isOperatorLike then ruleAt? style filename s else none := rfl

/-- The warnings about a tree are those that are due for its tokens. -/
theorem check_of_sites {t : Tree} {sites : List TokenSite}
    (hmap : sites.map (·.token) = t.tokens .origin) (hin : ∀ s ∈ sites, s.IsIn t.text)
    (style : SpacesStyle) (filename : Text) :
    check (rules style) (Model.ofTree t filename) = sites.filterMap (dueAt? style filename) := by
  rw [check, show (Model.ofTree t filename).tokens = sites.map (·.token) from hmap.symm,
    List.filterMap_map]
  refine List.filterMap_congr ?_
  intro s hs
  exact warning?_rules (hin s hs)

/-- Of an accepted text every leaf that is spelled like a punctuator, and is no comment and no
literal, is a token, and the rules of every style are tried on it as they are written for these
characters. Only the mark of an optional access is no token for rules, and none is tried on it. -/
theorem check_punctuators {text filename : Text} {m : Model}
    (hm : Model.ofText text filename = .ok m) : ∃ sites : List TokenSite,
      sites.map (·.token) = m.tokens ∧ (∀ s ∈ sites, s.IsIn text) ∧
      (∀ style, check (rules style) m = sites.filterMap (dueAt? style filename)) ∧
      ∀ before chars, (Tree.ofText text).HasPunctuator before chars →
        ∃ s ∈ sites, s.before = before ∧ s.token.value = chars ∧
          (s.token.kind.isOperatorLike = true ↔ chars ≠ Lexeme.optionalMark) ∧
          ∀ style, dueAt? style filename s =
            if chars = Lexeme.optionalMark then none else ruleAt? style filename s := by
  obtain ⟨t, ht, -, rfl⟩ := Model.ofText_eq_ok_iff.1 hm
  have htree : Tree.ofText text = t := by
    rw [Tree.ofText, ht]
  have htext : t.text = text := Tree.text_of_parse? ht
  obtain ⟨sites, hmap, hmem, -⟩ := Tree.exists_isCovered_self t
  have hin (s : TokenSite) (hs : s ∈ sites) : s.IsIn t.text := ((hmem s).1 hs).1
  refine ⟨sites, hmap, htext ▸ hin, fun style => check_of_sites hmap hin style filename, ?_⟩
  rw [htree]
  rintro before chars ⟨kind, behind, hholds, hkind, hchars⟩
  have hfits : kind.Fits chars :=
    Tree.fits_of_holds hholds (by simpa using Tree.isSpelled_of_parse? ht)
  obtain ⟨k, hk, hoperator⟩ := LeafKind.exists_tokenKind hfits hkind hchars
  obtain ⟨rest, hrest⟩ := Tree.textOf_of_holds hholds
  let s : TokenSite :=
    ⟨before, ⟨chars, k, .cover (Position.origin.advance before) chars⟩, Tree.textOf behind ++ rest⟩
  have hs : s ∈ sites := by
    refine (hmem s).2 ⟨⟨?_, rfl⟩, ⟨before, kind, behind, rfl, hholds, hk⟩, ?_⟩
    · simpa using hrest
    · rintro rfl
      exact absurd hchars (by decide)
  refine ⟨s, hs, rfl, rfl, hoperator, fun style => ?_⟩
  rw [dueAt?_eq]
  by_cases hmark : chars = Lexeme.optionalMark
  · rw [if_pos hmark, if_neg (mt hoperator.1 (not_not_intro hmark))]
  · rw [if_neg hmark, if_pos (hoperator.2 hmark)]

/-- An access to a member of what may be absent. -/
def optionalAccess : Text := ['a', '?', '.', 'b', ';']

theorem ofText_optionalAccess : Tree.ofText optionalAccess = .node .program
    [.node .expressionStatement
      [.node .member [.leaf .name ['a'], .leaf .optionalChain ['?', '.'], .leaf .property ['b']],
        .leaf .punctuator [';']]] :=
  rfl

/-- The semicolon behind an optional access is a token for rules. -/
theorem check_punctuators_optionalAccess :
    ∃ m, Model.ofText optionalAccess [] = .ok m ∧ ∃ sites : List TokenSite,
      sites.map (·.token) = m.tokens ∧ (∀ s ∈ sites, s.IsIn optionalAccess) ∧
      (∀ style, check (rules style) m = sites.filterMap (dueAt? style [])) ∧
      ∀ before chars, (Tree.ofText optionalAccess).HasPunctuator before chars →
        ∃ s ∈ sites, s.before = before ∧ s.token.value = chars ∧
          (s.token.kind.isOperatorLike = true ↔ chars ≠ Lexeme.optionalMark) ∧
          ∀ style, dueAt? style [] s =
            if chars = Lexeme.optionalMark then none else ruleAt? style [] s :=
  ⟨_, rfl, check_punctuators rfl⟩

/-- Before the mark of an optional access there is to be a space and is none, but nothing is
reported. -/
theorem check_optionalAccess :
    let style : SpacesStyle := { before := [Lexeme.optionalMark] }
    ∃ m, Model.ofText optionalAccess [] = .ok m ∧
      (Tree.ofText optionalAccess).HasPunctuator ['a'] Lexeme.optionalMark ∧
      Side.before.isViolated ['a'] ['b', ';'] = true ∧ check (rules style) m = [] := by
  intro style
  have hrules : rules style = [⟨Lexeme.optionalMark, .before⟩] := by
    simp [style, rules, Side.all, Side.operators]
  have hpunctuator : (Tree.ofText optionalAccess).HasPunctuator ['a'] Lexeme.optionalMark := by
    rw [ofText_optionalAccess]
    exact ⟨.optionalChain, _, .inside _ _ (.inside _ _ (.inside _ _ (.later _ (.here _ _)))), rfl,
      by decide⟩
  refine ⟨_, rfl, hpunctuator, rfl, ?_⟩
  rw [hrules]
  rfl

end Spacing

end ScriptStyle
