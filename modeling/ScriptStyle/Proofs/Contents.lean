import ScriptStyle.Proofs.Spacing
import ScriptStyle.Proofs.Spellings
import ScriptStyle.Proofs.Tokens

/-!
# Contents and the rules about spaces

What stands in a comment, a string, a regular expression or a template is no code, and the check of
spaces must not depend on it. Two facts make this sure. No rule is tried on contents: each byte of
them belongs to one token, and that token is neither a punctuator nor a word of the language
(`Tree.HoldsContent.exists_covers`). And no rule looks at contents: a token that rules apply to has
its neighbours next to its span, and an inner byte of another token is next to the span of no token
that is apart from it (`Span.not_hasInside_stop`, `Span.not_hasInside_left`). So two models that
differ in nothing but inner bytes of other tokens get the same warnings (`Spacing.check_congr`).
-/

namespace ScriptStyle

open Text (byteSize)

/-! ## Contents are no operators -/

/-- The characters of such a leaf are contents: those of a comment, a regular expression, a string, or
text between tags. -/
def LeafKind.isContent : LeafKind → Bool
  | comment | string | regex => true
  | blank | keyword | punctuator | name | property | shorthand | optionalChain | number | template =>
    false

namespace Tree

/-- Behind a text, a tree has some characters as contents. -/
inductive HoldsContent (t : Tree) : Text → Text → Prop
  /-- All characters of a leaf of comments or literals. -/
  | leaf {before chars : Text} {kind : LeafKind} {behind : List Tree}
    (hholds : Holds [t] before (.leaf kind chars) behind) (hkind : kind.isContent = true) :
    HoldsContent t before chars
  /-- A part of a template that is no substitution. -/
  | template {before : Text} (us : List Tree) (u : Tree) (vs : List Tree) {behind : List Tree}
    (hholds : Holds [t] before (node .template (us ++ u :: vs)) behind)
    (hu : u.hasKind .substitution = false) : HoldsContent t (before ++ textOf us) u.text

/-- A part of a node that stands among some trees stands among them too. -/
theorem holds_part {ts : List Tree} {before : Text} {k : NodeKind} {us vs behind : List Tree}
    {u : Tree} (h : Holds ts before (node k (us ++ u :: vs)) behind) :
    Holds ts (before ++ textOf us) u vs := by
  have hparts (us : List Tree) : Holds (us ++ u :: vs) (textOf us) u vs := by
    induction us with
    | nil => exact .here u vs
    | cons w us ih =>
      rw [textOf_cons]
      exact .later w ih
  generalize hn : node k (us ++ u :: vs) = n at h
  induction h with
  | here n ts =>
    subst hn
    exact .inside k ts (hparts us)
  | later t _ ih =>
    rw [List.append_assoc]
    exact .later t (ih hn)
  | inside k' ts _ ih => exact .inside k' ts (ih hn)

/-- In a spelled tree contents are leaves, and their tokens are not for rules about operators. -/
theorem HoldsContent.exists_leaf {t : Tree} {before chars : Text} (h : t.HoldsContent before chars)
    (ht : t.IsSpelled) : ∃ kind behind k, Holds [t] before (.leaf kind chars) behind ∧
      kind.tokenKind? = some k ∧ k.isOperatorLike = false := by
  cases h with
  | @leaf _ _ kind behind hholds hkind =>
    cases kind with
    | comment => exact ⟨_, behind, _, hholds, rfl, rfl⟩
    | string => exact ⟨_, behind, _, hholds, rfl, rfl⟩
    | regex => exact ⟨_, behind, _, hholds, rfl, rfl⟩
    | blank | keyword | punctuator | name | property | shorthand | optionalChain | number
    | template => cases hkind
  | @template before us u vs behind hholds hu =>
    have hadmits : NodeKind.template.Admits (us ++ u :: vs) :=
      admits_of_holds hholds (by simpa using ht)
    have hpart : u.isTemplatePart = true := hadmits.isTemplatePart rfl u (by simp)
    -- The only parts of templates besides substitutions are leaves of the kind for pieces.
    unfold isTemplatePart at hpart
    split at hpart
    · next chars =>
      refine ⟨.template, vs, _, ?_, rfl, rfl⟩
      rw [text_leaf]
      exact holds_part hholds
    · cases hu
    · cases hpart

/-- Each byte of contents belongs to exactly one of the tokens that cover the tree, and no rule about
operators applies to this token. -/
theorem HoldsContent.exists_covers {t : Tree} {before chars : Text} {sites : List TokenSite}
    (h : t.HoldsContent before chars) (ht : t.IsSpelled) (hsites : IsCovered [] [t] [] sites)
    {offset : Nat} (hle : byteSize before ≤ offset) (hlt : offset < byteSize (before ++ chars)) :
    ∃ s ∈ sites, s.Covers offset ∧ s.token.kind.isOperatorLike = false ∧
      ∀ s' ∈ sites, s'.Covers offset → s' = s := by
  obtain ⟨kind, behind, k, hholds, hk, hoperator⟩ := h.exists_leaf ht
  have hne : chars ≠ [] := by
    rintro rfl
    rw [List.append_nil] at hlt
    omega
  obtain ⟨s, hs, hbefore, hvalue, hkind⟩ := hsites.exists_of_holds hholds hk hne
  have hcovers : s.Covers offset := by
    rw [TokenSite.Covers, TokenSite.startByte, TokenSite.stopByte, hbefore, hvalue]
    exact ⟨hle, hlt⟩
  refine ⟨s, hs, hcovers, ?_, ?_⟩
  · rw [hkind]
    exact hoperator
  · intro s' hs' hcovers'
    exact hsites.eq_of_covers hs' hs hcovers' hcovers

end Tree

/-! ## The bytes next to a token -/

namespace Span

/-- A stretch has at least one place. -/
def IsNonempty (s : Span) : Prop := s.stop.le s.start = false

instance (s : Span) : Decidable s.IsNonempty := inferInstanceAs (Decidable (_ = _))

/-- The place belongs to a stretch. -/
def Covers (s : Span) (p : Position) : Prop := s.start.le p = true ∧ s.stop.le p = false

/-- No place belongs to both stretches. -/
def IsApart (s t : Span) : Prop := ∀ p, ¬ (s.Covers p ∧ t.Covers p)

/-- The byte at the place belongs to a stretch and is neither its first nor its last one. -/
structure HasInside (s : Span) (p : Position) : Prop where
  covers : s.Covers p
  ne_start : p ≠ s.start
  /-- It is not the last byte: the stretch does not end behind it. -/
  ne_stop : s.stop ≠ ⟨p.line, p.column + 1⟩

variable {s t : Span}

theorem IsApart.symm (h : s.IsApart t) : t.IsApart s :=
  fun p hp => h p ⟨hp.2, hp.1⟩

theorem covers_iff {p : Position} : s.Covers p ↔
    (s.start.line < p.line ∨ s.start.line = p.line ∧ s.start.column ≤ p.column) ∧
      (p.line < s.stop.line ∨ p.line = s.stop.line ∧ p.column < s.stop.column) := by
  rw [Covers, Bool.eq_false_iff, Ne, Position.le_iff, Position.le_iff]
  omega

theorem isNonempty_iff : s.IsNonempty ↔
    s.start.line < s.stop.line ∨ s.start.line = s.stop.line ∧ s.start.column < s.stop.column := by
  rw [IsNonempty, Bool.eq_false_iff, Ne, Position.le_iff]
  omega

theorem isApart_of_le (h : s.stop.le t.start = true) : s.IsApart t := by
  rintro p ⟨hs, ht⟩
  have hstop := covers_iff.1 hs
  have hstart := covers_iff.1 ht
  rw [Position.le_iff] at h
  omega

/-- The place behind a stretch is no inner one of a stretch that is apart from it: otherwise the later
one of the two first places would belong to both. -/
theorem not_hasInside_stop (hs : s.IsNonempty) (h : s.IsApart t) : ¬ t.HasInside s.stop := by
  intro hin
  have hcovers := covers_iff.1 hin.covers
  have hne := isNonempty_iff.1 hs
  have hstart : t.start ≠ s.stop := Ne.symm hin.ne_start
  rw [Ne, Position.eq_iff] at hstart
  -- Of the two first places, the later one belongs to both stretches.
  by_cases hle : t.start.le s.start = true
  · refine h s.start ⟨covers_iff.2 ?_, covers_iff.2 ?_⟩
    · omega
    · rw [Position.le_iff] at hle
      omega
  · refine h t.start ⟨covers_iff.2 ?_, covers_iff.2 ?_⟩
    · rw [Position.le_iff] at hle
      omega
    · omega

/-- Nor is the place one byte before a stretch, because the first byte of the stretch would then
belong to both. -/
theorem not_hasInside_left (hs : s.IsNonempty) (h : s.IsApart t) :
    ¬ t.HasInside ⟨s.start.line, s.start.column - 1⟩ := by
  intro hin
  have hcovers := covers_iff.1 hin.covers
  have hne := isNonempty_iff.1 hs
  have hstop := hin.ne_stop
  rw [Ne, Position.eq_iff] at hstop
  dsimp only at hcovers hstop
  refine h s.start ⟨covers_iff.2 ?_, covers_iff.2 ?_⟩
  · omega
  · omega

end Span

/-! ## Models that differ in contents -/

/-- A token has the class and the span of another one, and its value if rules apply to it. -/
structure Token.Resembles (t u : Token) : Prop where
  kind_eq : t.kind = u.kind
  span_eq : t.span = u.span
  value_eq : t.kind.isOperatorLike = true → t.value = u.value

/-- Two models have the same label and tokens that resemble one another, none of which is empty or
shares a place with another, and their texts differ in nothing but inner bytes of tokens that rules do
not apply to. A place that has a byte in one of the texts only counts as a difference. -/
structure Model.DifferInContents (m m' : Model) : Prop where
  filename_eq : m.filename = m'.filename
  tokens : List.Forall₂ Token.Resembles m.tokens m'.tokens
  nonempty : ∀ t ∈ m.tokens, t.span.IsNonempty
  apart : m.tokens.Pairwise fun t u => t.span.IsApart u.span
  bytes : ∀ p, m.byteAt? p ≠ m'.byteAt? p →
    ∃ t ∈ m.tokens, t.kind.isOperatorLike = false ∧ t.span.HasInside p

namespace Model.DifferInContents

variable {m m' : Model} (h : m.DifferInContents m')
include h

/-- A token for rules is apart from a token for none. -/
theorem isApart {t u : Token} (ht : t ∈ m.tokens) (hu : u ∈ m.tokens)
    (hkind : t.kind.isOperatorLike = true) (hkind' : u.kind.isOperatorLike = false) :
    t.span.IsApart u.span := by
  have hsymm : Std.Symm fun t u : Token => t.span.IsApart u.span :=
    ⟨fun _ _ => Span.IsApart.symm⟩
  refine h.apart.forall ht hu ?_
  rintro rfl
  rw [hkind] at hkind'
  cases hkind'

/-- The two texts have the same byte at a place that is an inner one of no token for no rules. -/
theorem byteAt?_eq {p : Position}
    (hp : ∀ u ∈ m.tokens, u.kind.isOperatorLike = false → ¬ u.span.HasInside p) :
    m.byteAt? p = m'.byteAt? p := by
  by_contra hne
  obtain ⟨u, hu, hkind, hin⟩ := h.bytes p hne
  exact hp u hu hkind hin

/-- A token for rules has the same neighbours in both texts. -/
theorem neighbour?_eq {t : Token} (ht : t ∈ m.tokens) (hkind : t.kind.isOperatorLike = true)
    (side : Side) : Spacing.neighbour? m t side = Spacing.neighbour? m' t side := by
  have hafter : Spacing.byteAfter? m t = Spacing.byteAfter? m' t :=
    h.byteAt?_eq fun u hu hkind' =>
      Span.not_hasInside_stop (h.nonempty t ht) (h.isApart ht hu hkind hkind')
  have hbefore : Spacing.byteBefore? m t = Spacing.byteBefore? m' t := by
    rw [Spacing.byteBefore?, Spacing.byteBefore?]
    by_cases hcolumn : t.span.start.column = 0
    · rw [if_pos hcolumn, if_pos hcolumn]
    · rw [if_neg hcolumn, if_neg hcolumn]
      exact h.byteAt?_eq fun u hu hkind' =>
        Span.not_hasInside_left (h.nonempty t ht) (h.isApart ht hu hkind hkind')
  rw [Spacing.neighbour?, Spacing.neighbour?, hafter, hbefore]

end Model.DifferInContents

namespace Spacing

variable {m m' : Model}

/-- The rules say the same about a token with the same neighbours. -/
theorem warning?_congr {t u : Token} (rules : List SpacingRule) (h : m.DifferInContents m')
    (ht : t ∈ m.tokens) (htu : t.Resembles u) : warning? m rules t = warning? m' rules u := by
  rw [warning?, warning?, ← htu.kind_eq]
  split
  · next hkind =>
    have hneighbour (side : Side) : neighbour? m t side = neighbour? m' u side := by
      rw [h.neighbour?_eq ht hkind, neighbour?, neighbour?, byteBefore?, byteBefore?, byteAfter?,
        byteAfter?, htu.span_eq]
    have hbroken : firstBroken? m rules t = firstBroken? m' rules u := by
      rw [firstBroken?, firstBroken?]
      simp only [hneighbour, htu.value_eq hkind]
    rw [hbroken, h.filename_eq, htu.span_eq]
  · rfl

theorem filterMap_congr_of_forall₂ {α β γ : Type} {R : α → β → Prop} {f : α → Option γ}
    {g : β → Option γ} {as : List α} {bs : List β} (h : List.Forall₂ R as bs)
    (hfg : ∀ a ∈ as, ∀ b, R a b → f a = g b) : as.filterMap f = bs.filterMap g := by
  induction h with
  | nil => rfl
  | cons hab _ ih =>
    rw [List.filterMap_cons, List.filterMap_cons, hfg _ (List.mem_cons_self ..) _ hab,
      ih fun a ha => hfg a (List.mem_cons_of_mem _ ha)]

/-- The check says the same about two models that differ in contents. -/
theorem check_congr (rules : List SpacingRule) (h : m.DifferInContents m') :
    check rules m = check rules m' :=
  filterMap_congr_of_forall₂ h.tokens fun _ ht _ htu => warning?_congr rules h ht htu

/-- Contents have no influence on the check of spaces. In an accepted text each byte of a comment, a
string, a regular expression, text between tags or a piece of a template belongs to one token, to
which no rule applies; and two models that differ in nothing but inner bytes of such tokens get the
same warnings, whatever operators are listed. -/
theorem check_contents :
    (∀ text filename m, Model.ofText text filename = .ok m → ∃ sites : List TokenSite,
      sites.map (·.token) = m.tokens ∧ (∀ s ∈ sites, s.IsIn text) ∧
      ∀ before chars, (Tree.ofText text).HoldsContent before chars →
        ∀ offset, byteSize before ≤ offset → offset < byteSize (before ++ chars) →
          ∃ s ∈ sites, s.Covers offset ∧ s.token.kind.isOperatorLike = false ∧
            ∀ s' ∈ sites, s'.Covers offset → s' = s) ∧
    ∀ m m' : Model, m.DifferInContents m' →
      ∀ style, check (rules style) m = check (rules style) m' := by
  constructor
  · intro text filename m hm
    obtain ⟨t, ht, -, rfl⟩ := Model.ofText_eq_ok_iff.1 hm
    have htree : Tree.ofText text = t := Tree.ofText_of_parse? ht
    have htext : t.text = text := Tree.text_of_parse? ht
    obtain ⟨sites, hmap, hmem, hcovered⟩ := Tree.exists_isCovered_self t
    refine ⟨sites, hmap, ?_, ?_⟩
    · intro s hs
      rw [← htext]
      exact ((hmem s).1 hs).1
    · intro before chars hcontent offset hle hlt
      rw [htree] at hcontent
      exact hcontent.exists_covers (Tree.isSpelled_of_parse? ht) hcovered hle hlt
  · intro m m' h style
    exact check_congr (rules style) h

/-- A sum with a quotation of another sum in it. -/
def quotedSum : Text := ['x', '+', '"', 'a', '+', 'b', '"']

/-- The same with a quotation of a difference. -/
def quotedDifference : Text := ['x', '+', '"', 'a', '-', 'b', '"']

/-- Only the sign in the quotation makes a difference between the two, and it is an inner byte of a
string. -/
theorem differInContents_quoted :
    ∃ m m', Model.ofText quotedSum [] = .ok m ∧ Model.ofText quotedDifference [] = .ok m' ∧
      m.DifferInContents m' := by
  refine ⟨_, _, rfl, rfl, rfl, ?_, by decide, ?_, ?_⟩
  · exact .cons ⟨rfl, rfl, fun _ => rfl⟩
      (.cons ⟨rfl, rfl, fun _ => rfl⟩ (.cons ⟨rfl, rfl, nofun⟩ .nil))
  · refine List.Pairwise.imp Span.isApart_of_le ?_
    decide
  · rintro ⟨line, column⟩ hne
    obtain ⟨rfl, rfl⟩ : line = 1 ∧ column = 4 := by
      rcases line with _ | _ | line
      · exact absurd rfl hne
      · rcases column with _ | _ | _ | _ | _ | _ | _ | column
        all_goals first | exact ⟨rfl, rfl⟩ | exact absurd rfl hne
      · exact absurd rfl hne
    exact ⟨⟨['"', 'a', '+', 'b', '"'], .string, ⟨⟨1, 2⟩, ⟨1, 7⟩⟩⟩, by decide, rfl,
      ⟨by decide, by decide⟩, by decide, by decide⟩

/-- The quoted sign is a byte of a token for no rules, and what it is makes no difference. -/
theorem check_contents_quoted :
    (∃ m m', Model.ofText quotedSum [] = .ok m ∧ Model.ofText quotedDifference [] = .ok m' ∧
      m.DifferInContents m' ∧ ∀ style, check (rules style) m = check (rules style) m') ∧
    ∃ m, Model.ofText quotedSum [] = .ok m ∧
      (Tree.ofText quotedSum).HoldsContent ['x', '+'] ['"', 'a', '+', 'b', '"'] ∧
      ∃ sites : List TokenSite, sites.map (·.token) = m.tokens ∧
        ∃ s ∈ sites, s.Covers 4 ∧ s.token.kind.isOperatorLike = false := by
  constructor
  · obtain ⟨m, m', hm, hm', hdiffer⟩ := differInContents_quoted
    exact ⟨m, m', hm, hm', hdiffer, check_contents.2 m m' hdiffer⟩
  · have htree : Tree.ofText quotedSum = .node .program [.node .expressionStatement
        [.node .binary [.leaf .name ['x'], .leaf .punctuator ['+'],
          .leaf .string ['"', 'a', '+', 'b', '"']]]] := rfl
    have hcontent : (Tree.ofText quotedSum).HoldsContent ['x', '+'] ['"', 'a', '+', 'b', '"'] := by
      rw [htree]
      exact .leaf (.inside _ _ (.inside _ _ (.inside _ _ (.later _ (.later _ (.here _ _)))))) rfl
    obtain ⟨sites, hmap, -, hcontents⟩ := check_contents.1 quotedSum [] _ rfl
    obtain ⟨s, hs, hcovers, hoperator, -⟩ := hcontents _ _ hcontent 4 (by decide) (by decide)
    exact ⟨_, rfl, hcontent, sites, hmap, s, hs, hcovers, hoperator⟩

end Spacing

end ScriptStyle
