import Mathlib.Data.List.Pairwise
import ScriptStyle.Proofs.Sites

/-!
# The tokens of a tree and the bytes of its text

In a tree a string, a regular expression and a piece of a template outside its substitutions are
leaves like any other lexeme, and blanks are leaves too: they fill what the grammar leaves between
its lexemes. The tokens of a tree are its other leaves, as far as they have characters.

`Tree.IsCovered` says of some tokens all that matters: they are the tokens of trees that follow one
another, they stand in the order of the text without overlapping, and they are exactly the leaves.
Trees that follow one another are covered by the tokens of the first and those of the others, and a
node is covered by the tokens of its parts, so every tree is covered at any depth. From it come the
results: `Tree.existsUnique_covers` finds for each byte of a leaf the one token with it, and
`Tree.exists_cover_tokens` puts everything together.
-/

namespace ScriptStyle

namespace Text

/-- The characters of a text that stand in a stretch, when the text begins at `p`. -/
def sliceFrom (p : Position) (s : Span) : Text → Text
  | [] => []
  | c :: cs =>
    if s.start.le p && !s.stop.le p then c :: sliceFrom (p.next c) s cs
    else sliceFrom (p.next c) s cs

/-- The characters of a text that stand in a stretch. -/
def slice (t : Text) (s : Span) : Text := sliceFrom .origin s t

theorem byteSize_append (t u : Text) : byteSize (t ++ u) = byteSize t + byteSize u := by
  rw [← length_bytes, bytes_append, List.length_append, length_bytes, length_bytes]

theorem byteSize_pos {t : Text} (h : t ≠ []) : 0 < byteSize t := by
  rw [← length_bytes]
  exact List.length_pos_of_ne_nil (mt bytes_eq_nil.1 h)

end Text

open Text (byteSize byteSize_append)

namespace TokenSite

/-- The number of bytes before the token. -/
def startByte (s : TokenSite) : Nat := byteSize s.before

/-- The number of bytes up to the end of the token. -/
def stopByte (s : TokenSite) : Nat := byteSize (s.before ++ s.token.value)

/-- The byte at an offset belongs to the token. -/
def Covers (s : TokenSite) (offset : Nat) : Prop := s.startByte ≤ offset ∧ offset < s.stopByte

/-- The token is a leaf among some trees, which begin behind the text `before`: the characters are
those of the leaf, the class is that of its kind, and there are characters. -/
structure IsLeaf (s : TokenSite) (before : Text) (ts : List Tree) : Prop where
  /-- A leaf with these characters stands there. -/
  holds : ∃ b kind behind, s.before = before ++ b ∧
    Tree.Holds ts b (.leaf kind s.token.value) behind ∧ kind.tokenKind? = some s.token.kind
  /-- The token is not empty. -/
  ne_nil : s.token.value ≠ []

theorem IsLeaf.startByte_lt {s : TokenSite} {before : Text} {ts : List Tree}
    (h : s.IsLeaf before ts) : s.startByte < s.stopByte := by
  have hpos := Text.byteSize_pos h.ne_nil
  rw [startByte, stopByte, byteSize_append]
  omega

/-- What stands around a token in a text is known from what stands before it. -/
theorem eq_of_isIn {s s' : TokenSite} {text : Text} (h : s.IsIn text) (h' : s'.IsIn text)
    (hbefore : s.before = s'.before) (hvalue : s.token.value = s'.token.value)
    (hkind : s.token.kind = s'.token.kind) : s = s' := by
  have hafter := h.text_eq.symm.trans h'.text_eq
  have hspan := h.span_eq
  have hspan' := h'.span_eq
  rcases s with ⟨before, ⟨value, kind, span⟩, after⟩
  rcases s' with ⟨before', ⟨value', kind', span'⟩, after'⟩
  dsimp only at *
  subst hbefore hvalue hkind hspan hspan'
  rw [List.append_cancel_left hafter]

end TokenSite

namespace Tree

open Position (origin)

variable {before after : Text} {ts us : List Tree} {sites sites' : List TokenSite}

/-- Some tokens cover trees that stand between two texts. -/
structure IsCovered (before : Text) (ts : List Tree) (after : Text) (sites : List TokenSite) :
    Prop where
  /-- They are the tokens of the trees. -/
  tokens_eq : sites.map (·.token) = tokensOf (origin.advance before) ts
  /-- They are the leaves of the trees and stand where the leaves stand. -/
  mem_iff : ∀ s, s ∈ sites ↔ s.IsIn (before ++ textOf ts ++ after) ∧ s.IsLeaf before ts
  /-- Each ends before the next one begins. -/
  ordered : sites.Pairwise fun s s' => s.stopByte ≤ s'.startByte
  /-- None begins before the trees. -/
  start_le : ∀ s ∈ sites, byteSize before ≤ s.startByte
  /-- None ends behind them. -/
  le_stop : ∀ s ∈ sites, s.stopByte ≤ byteSize (before ++ textOf ts)

namespace IsCovered

theorem nil (before after : Text) : IsCovered before [] after [] where
  tokens_eq := by rw [tokensOf]; rfl
  mem_iff := by
    intro s
    constructor
    · intro h
      cases h
    · rintro ⟨-, ⟨b, kind, behind, -, hholds, -⟩, -⟩
      cases hholds
  ordered := .nil
  start_le := by simp
  le_stop := by simp

/-- A node is covered by the tokens that cover its parts. -/
theorem inside (k : NodeKind) (h : IsCovered before us after sites) :
    IsCovered before [node k us] after sites where
  tokens_eq := by
    rw [h.tokens_eq, tokensOf, tokensOf, tokens, List.append_nil]
  mem_iff := by
    intro s
    rw [h.mem_iff, textOf_cons, textOf_nil, List.append_nil, text_node]
    refine and_congr_right fun _ => ⟨?_, ?_⟩
    · rintro ⟨⟨b, kind, behind, hb, hholds, hkind⟩, hne⟩
      exact ⟨⟨b, kind, behind, hb, .inside k [] hholds, hkind⟩, hne⟩
    · rintro ⟨⟨b, kind, behind, hb, hholds, hkind⟩, hne⟩
      rcases hholds with _ | ⟨_, ⟨⟩⟩ | ⟨_, _, hholds⟩
      exact ⟨⟨b, kind, behind, hb, hholds, hkind⟩, hne⟩
  ordered := h.ordered
  start_le := h.start_le
  le_stop := by
    rw [textOf_cons, textOf_nil, List.append_nil, text_node]
    exact h.le_stop

/-- Trees that follow one another are covered by the tokens that cover the first of them and those
that cover the others. -/
theorem cons {t : Tree} (h : IsCovered before [t] (textOf ts ++ after) sites)
    (h' : IsCovered (before ++ t.text) ts after sites') :
    IsCovered before (t :: ts) after (sites ++ sites') where
  tokens_eq := by
    rw [List.map_append, h.tokens_eq, h'.tokens_eq, tokensOf, tokensOf, tokensOf, List.append_nil,
      advance_eq, Position.advance_append]
  mem_iff := by
    intro s
    rw [List.mem_append, h.mem_iff, h'.mem_iff, textOf_cons, textOf_cons, textOf_nil,
      List.append_nil, List.append_assoc before, List.append_assoc before, List.append_assoc before,
      List.append_assoc t.text, ← and_or_left]
    refine and_congr_right fun _ => ⟨?_, ?_⟩
    · rintro (⟨⟨b, kind, behind, hb, hholds, hkind⟩, hne⟩ |
        ⟨⟨b, kind, behind, hb, hholds, hkind⟩, hne⟩)
      · rcases hholds with _ | ⟨_, ⟨⟩⟩ | ⟨k, _, hholds⟩
        · exact ⟨⟨[], kind, ts, hb, .here _ _, hkind⟩, hne⟩
        · exact ⟨⟨b, kind, behind, hb, .inside k ts hholds, hkind⟩, hne⟩
      · exact ⟨⟨t.text ++ b, kind, behind, by rw [hb, List.append_assoc], .later t hholds, hkind⟩,
          hne⟩
    · rintro ⟨⟨b, kind, behind, hb, hholds, hkind⟩, hne⟩
      rcases hholds with _ | ⟨_, hholds⟩ | ⟨k, _, hholds⟩
      · exact .inl ⟨⟨[], kind, [], hb, .here _ _, hkind⟩, hne⟩
      · exact .inr ⟨⟨_, kind, behind, by rw [hb, List.append_assoc], hholds, hkind⟩, hne⟩
      · exact .inl ⟨⟨b, kind, behind, hb, .inside k [] hholds, hkind⟩, hne⟩
  ordered := by
    refine List.pairwise_append.2 ⟨h.ordered, h'.ordered, ?_⟩
    intro s hs s' hs'
    have hstop := h.le_stop s hs
    rw [textOf_cons, textOf_nil, List.append_nil] at hstop
    exact Nat.le_trans hstop (h'.start_le s' hs')
  start_le := by
    intro s hs
    rcases List.mem_append.1 hs with hs | hs
    · exact h.start_le s hs
    · have hstart := h'.start_le s hs
      rw [byteSize_append] at hstart
      omega
  le_stop := by
    intro s hs
    rw [textOf_cons, ← List.append_assoc]
    rcases List.mem_append.1 hs with hs | hs
    · have hstop := h.le_stop s hs
      rw [textOf_cons, textOf_nil, List.append_nil] at hstop
      rw [byteSize_append _ (textOf ts)]
      omega
    · exact h'.le_stop s hs

/-- A leaf with characters that is no blank is covered by one token. -/
theorem leaf {kind : LeafKind} {k : TokenKind} {chars : Text} (before after : Text)
    (hk : kind.tokenKind? = some k) (hne : chars ≠ []) :
    IsCovered before [leaf kind chars] after
      [⟨before, ⟨chars, k, .cover (origin.advance before) chars⟩, after⟩] where
  tokens_eq := by
    obtain ⟨c, cs, rfl⟩ := List.exists_cons_of_ne_nil hne
    simp only [tokensOf, tokens, hk]
    rfl
  mem_iff := by
    intro s
    rw [List.mem_singleton, textOf_cons, textOf_nil, List.append_nil, text_leaf]
    constructor
    · rintro rfl
      exact ⟨⟨rfl, rfl⟩, ⟨[], kind, [], (List.append_nil _).symm, .here _ _, hk⟩, hne⟩
    · rintro ⟨hin, ⟨b, kind', behind, hb, hholds, hkind⟩, -⟩
      rcases hholds with _ | ⟨_, ⟨⟩⟩ | _
      rw [List.append_nil] at hb
      exact TokenSite.eq_of_isIn hin ⟨rfl, rfl⟩ hb rfl (Option.some.inj (hkind.symm.trans hk))
  ordered := List.pairwise_singleton _ _
  start_le := by
    intro s hs
    rw [List.mem_singleton.1 hs]
    exact Nat.le_refl _
  le_stop := by
    intro s hs
    rw [List.mem_singleton.1 hs, textOf_cons, textOf_nil, List.append_nil, text_leaf]
    exact Nat.le_refl _

/-- A tree without parts that has no token is covered by none. -/
theorem none {t : Tree} (before after : Text) (htokens : t.tokens (origin.advance before) = [])
    (hleaf : ∀ s : TokenSite, ¬ s.IsLeaf before [t]) : IsCovered before [t] after [] where
  tokens_eq := by
    rw [tokensOf, tokensOf, htokens]
    rfl
  mem_iff := by
    intro s
    constructor
    · intro hs
      cases hs
    · rintro ⟨-, hs⟩
      exact absurd hs (hleaf s)
  ordered := .nil
  start_le := by simp
  le_stop := by simp

end IsCovered

mutual

/-- Every tree is covered by some tokens. -/
theorem exists_isCovered (before after : Text) :
    ∀ t : Tree, ∃ sites, IsCovered before [t] after sites
  | .leaf kind chars => by
    by_cases hne : chars = []
    · refine ⟨[], .none before after ?_ ?_⟩
      · unfold tokens
        split <;> simp_all
      · rintro s ⟨⟨b, kind', behind, hb, hholds, hkind⟩, hs⟩
        rcases hholds with _ | ⟨_, ⟨⟩⟩ | _
        exact hs hne
    · cases hk : kind.tokenKind? with
      | some k => exact ⟨_, .leaf before after hk hne⟩
      | none =>
        refine ⟨[], .none before after (by simp only [tokens, hk]) ?_⟩
        rintro s ⟨⟨b, kind', behind, hb, hholds, hkind⟩, hs⟩
        rcases hholds with _ | ⟨_, ⟨⟩⟩ | _
        rw [hk] at hkind
        cases hkind
  | .missing spelling => by
    refine ⟨[], .none before after (by rw [tokens]) ?_⟩
    rintro s ⟨⟨b, kind, behind, hb, hholds, hkind⟩, hs⟩
    rcases hholds with _ | ⟨_, hnil⟩
    cases hnil
  | .node k us => by
    obtain ⟨sites, h⟩ := exists_isCoveredAll before after us
    exact ⟨sites, h.inside k⟩

/-- So are trees that follow one another. -/
theorem exists_isCoveredAll (before after : Text) :
    ∀ ts : List Tree, ∃ sites, IsCovered before ts after sites
  | [] => ⟨[], .nil before after⟩
  | t :: ts => by
    obtain ⟨sites, h⟩ := exists_isCovered before (textOf ts ++ after) t
    obtain ⟨sites', h'⟩ := exists_isCoveredAll (before ++ t.text) after ts
    exact ⟨sites ++ sites', h.cons h'⟩

end

/-- A byte belongs to at most one of the tokens that cover some trees. -/
theorem IsCovered.eq_of_covers (h : IsCovered before ts after sites) {s s' : TokenSite}
    (hs : s ∈ sites) (hs' : s' ∈ sites) {offset : Nat} (hoffset : s.Covers offset)
    (hoffset' : s'.Covers offset) : s = s' := by
  by_contra hne
  have hsymm : Std.Symm fun s s' : TokenSite =>
      s.stopByte ≤ s'.startByte ∨ s'.stopByte ≤ s.startByte := ⟨fun _ _ => Or.symm⟩
  have hapart : sites.Pairwise fun s s' => s.stopByte ≤ s'.startByte ∨ s'.stopByte ≤ s.startByte :=
    h.ordered.imp .inl
  have := hapart.forall hs hs' hne
  obtain ⟨hle, hlt⟩ := hoffset
  obtain ⟨hle', hlt'⟩ := hoffset'
  omega

/-- Among the tokens that cover some trees is that of each leaf with characters that is no blank. -/
theorem IsCovered.exists_of_holds (h : IsCovered before ts after sites) {b chars : Text}
    {kind : LeafKind} {k : TokenKind} {behind : List Tree}
    (hholds : Holds ts b (.leaf kind chars) behind) (hk : kind.tokenKind? = some k)
    (hne : chars ≠ []) :
    ∃ s ∈ sites, s.before = before ++ b ∧ s.token.value = chars ∧ s.token.kind = k := by
  obtain ⟨rest, hrest⟩ := textOf_of_holds hholds
  let s : TokenSite :=
    ⟨before ++ b, ⟨chars, k, .cover (origin.advance (before ++ b)) chars⟩,
      textOf behind ++ rest ++ after⟩
  have hs : s ∈ sites := by
    refine (h.mem_iff s).2 ⟨⟨?_, rfl⟩, ⟨b, kind, behind, rfl, hholds, hk⟩, hne⟩
    rw [hrest]
    simp [s]
  exact ⟨s, hs, rfl, rfl, rfl⟩

/-- The tokens of a tree cover it, and they stand in its text. -/
theorem exists_isCovered_self (t : Tree) : ∃ sites : List TokenSite,
    sites.map (·.token) = t.tokens origin ∧
    (∀ s, s ∈ sites ↔ s.IsIn t.text ∧ s.IsLeaf [] [t]) ∧ IsCovered [] [t] [] sites := by
  obtain ⟨sites, h⟩ := exists_isCovered [] [] t
  have htext : [] ++ textOf [t] ++ [] = t.text := by simp
  have hmem := h.mem_iff
  rw [htext] at hmem
  refine ⟨sites, ?_, hmem, h⟩
  rw [h.tokens_eq, tokensOf, tokensOf, List.append_nil, Position.advance_nil]

end Tree

end ScriptStyle
