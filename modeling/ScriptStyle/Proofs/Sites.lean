import Mathlib.Data.List.Forall2
import ScriptStyle.Source.Outline
import ScriptStyle.Source.Tokens
import ScriptStyle.Proofs.Places

/-!
# Where statements and tokens come from

The outline of a tree keeps of a statement where it stands, as lines and columns. A `Site` is the
node that a statement comes from, with the text before it and the nodes behind it. It says what the
source text of the statement is, without any place: the characters of the node, and for a field the
semicolon right behind it as well.

`Tree.exists_sites` is the result: the statements of a tree, each before those in its body, come
from as many nodes of the tree, one each and in the same order, and the span of a statement covers
its source text. `Tree.exists_tokenSites` says the same of the tokens, which are pieces of the text
with other texts before and after them.
-/

namespace ScriptStyle

namespace Tree

/-- A tree `u` stands among some trees or inside of one of them. The text `before` comes before it,
and the trees `behind` follow it in the same node. -/
inductive Holds : List Tree → Text → Tree → List Tree → Prop where
  /-- It is the first of the trees. -/
  | here (u : Tree) (ts : List Tree) : Holds (u :: ts) [] u ts
  /-- It stands behind the first of the trees. -/
  | later {ts : List Tree} {before : Text} {u : Tree} {behind : List Tree} (t : Tree)
      (h : Holds ts before u behind) : Holds (t :: ts) (t.text ++ before) u behind
  /-- It stands inside of the first of the trees. -/
  | inside {us : List Tree} {before : Text} {u : Tree} {behind : List Tree} (k : NodeKind)
      (ts : List Tree) (h : Holds us before u behind) : Holds (node k us :: ts) before u behind

/-- The semicolon that follows with nothing but blanks before it, with these blanks. -/
def semicolonBehind? : List Tree → Option Text
  | leaf .blank chars :: ts => (semicolonBehind? ts).map (chars ++ ·)
  | leaf .punctuator [';'] :: _ => some [';']
  | _ => none

theorem semicolonEnd?_eq (before : Text) (ts : List Tree) :
    semicolonEnd? (Position.origin.advance before) ts =
      (semicolonBehind? ts).map fun own => Position.origin.advance (before ++ own) := by
  fun_induction semicolonBehind? ts generalizing before with
  | case1 chars ts ih =>
    rw [semicolonEnd?, ← Position.advance_append, ih, Option.map_map]
    simp [Function.comp_def]
  | case2 ts => simp [semicolonEnd?]
  | case3 ts h1 h2 =>
    rw [semicolonEnd?, Option.map_none]
    · exact h1
    · exact h2

theorem textOf_of_holds {ts : List Tree} {before : Text} {u : Tree} {behind : List Tree}
    (h : Holds ts before u behind) :
    ∃ rest, textOf ts = before ++ u.text ++ textOf behind ++ rest := by
  induction h with
  | here u ts => exact ⟨[], by simp⟩
  | later t _ ih =>
    obtain ⟨rest, ih⟩ := ih
    exact ⟨rest, by simp [ih]⟩
  | inside k ts _ ih =>
    obtain ⟨rest, ih⟩ := ih
    exact ⟨rest ++ textOf ts, by simp [ih]⟩

theorem textOf_of_semicolonBehind? {ts : List Tree} {own : Text}
    (h : semicolonBehind? ts = some own) : ∃ rest, textOf ts = own ++ rest := by
  fun_induction semicolonBehind? ts generalizing own with
  | case1 chars ts ih =>
    obtain ⟨own', h', rfl⟩ := Option.map_eq_some_iff.1 h
    obtain ⟨rest, ih⟩ := ih h'
    exact ⟨rest, by simp [ih]⟩
  | case2 ts =>
    obtain rfl : [';'] = own := Option.some.inj h
    exact ⟨textOf ts, by simp⟩
  | case3 => cases h

end Tree

/-- A node of a tree and where it stands. -/
structure Site where
  /-- The text before the node. -/
  before : Text
  /-- The kind of the node. -/
  kind : NodeKind
  /-- Its parts. -/
  parts : List Tree
  /-- What follows it in the node around it. -/
  behind : List Tree

namespace Site

/-- The node stands in a tree. -/
def IsIn (s : Site) (t : Tree) : Prop :=
  Tree.Holds [t] s.before (.node s.kind s.parts) s.behind

/-- The source text of the statement that the node is. -/
def text (s : Site) : Text :=
  Tree.textOf s.parts ++
    if s.kind = .fieldDefinition then (Tree.semicolonBehind? s.behind).getD [] else []

/-- The place where the node begins. -/
def start (s : Site) : Position := Position.origin.advance s.before

/-- The stretch that the source text covers. -/
def span (s : Site) : Span := ⟨s.start, Position.origin.advance (s.before ++ s.text)⟩

/-- What the node is as a statement without a body. -/
def simpleKind? (s : Site) : Option SimpleKind :=
  match s.kind with
  | .fieldDefinition => some .field
  | .exportStatement => some .exports
  | k => Tree.simpleKind? s.start s.parts k

/-- What the node is as a statement with a body. -/
def compoundKind? (s : Site) : Option CompoundKind :=
  (Tree.compoundKind? s.start s.parts s.kind <|> Tree.valueKind? s.start s.parts s.kind).map (·.1)
    <|> Tree.memberKind? s.kind

/-- A statement comes from the node: it is what the node is, and covers its source text. -/
def Makes (s : Site) : Statement → Prop
  | .simple kind span => s.simpleKind? = some kind ∧ span = s.span
  | .compound kind span _ => s.compoundKind? = some kind ∧ span = s.span

/-- The source text of a node stands in the text of the tree, behind the text before the node. -/
theorem text_of_isIn {s : Site} {t : Tree} (h : s.IsIn t) :
    ∃ rest, t.text = s.before ++ s.text ++ rest := by
  obtain ⟨rest, hrest⟩ := Tree.textOf_of_holds h
  simp only [Tree.textOf_cons, Tree.textOf_nil, List.append_nil, Tree.text_node] at hrest
  rw [text]
  split
  · cases hown : Tree.semicolonBehind? s.behind with
    | none => exact ⟨Tree.textOf s.behind ++ rest, by simp [hrest]⟩
    | some own =>
      obtain ⟨rest', hrest'⟩ := Tree.textOf_of_semicolonBehind? hown
      exact ⟨rest' ++ rest, by simp [hrest, hrest']⟩
  · exact ⟨Tree.textOf s.behind ++ rest, by simp [hrest]⟩

theorem text_of_ne {s : Site} (h : s.kind ≠ .fieldDefinition) : s.text = Tree.textOf s.parts := by
  rw [text, if_neg h, List.append_nil]

end Site

namespace Tree

open Position (origin)

variable {before : Text} {behind : List Tree} {k : NodeKind} {ts : List Tree} {place : Place}

theorem compoundKind?_site {kind : CompoundKind} {inner : Place}
    (h : compoundAt? place (origin.advance before) ts k = some (kind, inner)) :
    k ≠ .fieldDefinition ∧ (Site.mk before k ts behind).compoundKind? = some kind := by
  have hlist (h : Tree.compoundKind? (origin.advance before) ts k = some (kind, inner)) :
      k ≠ .fieldDefinition ∧ (Site.mk before k ts behind).compoundKind? = some kind := by
    constructor
    · rintro rfl
      cases h
    · simp [Site.compoundKind?, Site.start, h]
  cases place with
  | list => exact hlist h
  | branch => exact hlist h
  | cases => cases h
  | members =>
    obtain ⟨c, hc, hkind⟩ := Option.map_eq_some_iff.1 h
    unfold memberKind? at hc
    split at hc <;> cases hc <;> cases hkind <;> exact ⟨by decide, rfl⟩
  | exported =>
    dsimp only [compoundAt?] at h
    unfold valueKind? at h
    split at h
    · cases h
      exact ⟨by decide, rfl⟩
    · cases h
      exact ⟨by decide, rfl⟩
    · split at h
      · exact hlist h
      · cases h

theorem makes_simple {kind : SimpleKind}
    (h : simpleAt? place (origin.advance before) ts k = some kind) :
    (Site.mk before k ts behind).Makes (.simple kind ⟨origin.advance before,
      origin.advance (before ++ textOf ts ++
        if place = .members then (semicolonBehind? behind).getD [] else [])⟩) := by
  have hlist (hplace : place ≠ .members)
      (h : Tree.simpleKind? (origin.advance before) ts k = some kind) :
      (Site.mk before k ts behind).Makes (.simple kind ⟨origin.advance before,
        origin.advance (before ++ textOf ts ++
          if place = .members then (semicolonBehind? behind).getD [] else [])⟩) := by
    have hk : k ≠ .fieldDefinition := by
      rintro rfl
      cases h
    have he : k ≠ .exportStatement := by
      rintro rfl
      cases h
    refine ⟨?_, ?_⟩
    · unfold Site.simpleKind?
      split
      · next hk' => exact absurd hk' hk
      · next he' => exact absurd he' he
      · exact h
    · rw [if_neg hplace, List.append_nil, Site.span, Site.text_of_ne hk, Site.start]
  cases place with
  | list => exact hlist (by decide) h
  | branch => exact hlist (by decide) h
  | cases => cases h
  | exported =>
    dsimp only [simpleAt?] at h
    split at h
    · exact hlist (by decide) h
    · cases h
  | members =>
    dsimp only [simpleAt?] at h
    split at h
    · next hk =>
      cases h
      cases hk
      refine ⟨rfl, ?_⟩
      rw [if_pos rfl, Site.span, Site.text, if_pos rfl, Site.start, List.append_assoc]
    · cases h

theorem makes_exports (hk : k = .exportStatement) :
    (Site.mk before k ts behind).Makes
      (.simple .exports ⟨origin.advance before, advanceAll (origin.advance before) ts⟩) := by
  subst hk
  refine ⟨rfl, ?_⟩
  rw [Site.span, Site.text_of_ne (by rintro ⟨⟩), Site.start, advanceAll_eq, Position.advance_append]

theorem makes_compound {kind : CompoundKind} {inner : Place}
    (h : compoundAt? place (origin.advance before) ts k = some (kind, inner))
    (body : List Statement) :
    (Site.mk before k ts behind).Makes (.compound kind
      ⟨origin.advance before, advanceAll (origin.advance before) ts⟩ body) := by
  obtain ⟨hk, hkind⟩ := compoundKind?_site h
  refine ⟨hkind, ?_⟩
  rw [Site.span, Site.text_of_ne hk, Site.start, advanceAll_eq, Position.advance_append]

/-- Where the outline lets a field end is the place behind its source text. -/
theorem stop_eq (place : Place) (before : Text) (t : Tree) (ts : List Tree) :
    (if place = .members then
      (semicolonEnd? (t.advance (origin.advance before)) ts).getD (t.advance (origin.advance before))
      else t.advance (origin.advance before)) =
      origin.advance (before ++ t.text ++
        if place = .members then (semicolonBehind? ts).getD [] else []) := by
  rw [advance_eq, ← Position.advance_append, semicolonEnd?_eq]
  split
  · cases semicolonBehind? ts <;> simp
  · rw [List.append_nil]

/-- Some nodes among trees that begin behind a text make some statements. -/
structure Yields (before : Text) (ts : List Tree) (sites : List Site) (ss : List Statement) :
    Prop where
  /-- Each node makes the statement in its place. -/
  makes : List.Forall₂ Site.Makes sites ss
  /-- The nodes stand among the trees. -/
  holds : ∀ s ∈ sites, ∃ b, s.before = before ++ b ∧ Holds ts b (node s.kind s.parts) s.behind

namespace Yields

theorem nil (before : Text) (ts : List Tree) : Yields before ts [] [] :=
  ⟨List.Forall₂.nil, by simp⟩

theorem append {sites sites' : List Site} {ss ss' : List Statement}
    (h : Yields before ts sites ss) (h' : Yields before ts sites' ss') :
    Yields before ts (sites ++ sites') (ss ++ ss') where
  makes := List.rel_append h.makes h'.makes
  holds := by
    intro s hs
    rcases List.mem_append.1 hs with hs | hs
    · exact h.holds s hs
    · exact h'.holds s hs

theorem later {t : Tree} {sites : List Site} {ss : List Statement}
    (h : Yields (before ++ t.text) ts sites ss) : Yields before (t :: ts) sites ss where
  makes := h.makes
  holds := by
    intro s hs
    obtain ⟨b, hb, hin⟩ := h.holds s hs
    exact ⟨t.text ++ b, by rw [hb, List.append_assoc], .later t hin⟩

theorem inside {us : List Tree} {sites : List Site} {ss : List Statement}
    (h : Yields before us sites ss) : Yields before (node k us :: ts) sites ss where
  makes := h.makes
  holds := by
    intro s hs
    obtain ⟨b, hb, hin⟩ := h.holds s hs
    exact ⟨b, hb, .inside k ts hin⟩

theorem here {st : Statement} (h : (Site.mk before k ts behind).Makes st) :
    Yields before (node k ts :: behind) [⟨before, k, ts, behind⟩] [st] where
  makes := .cons h .nil
  holds := by
    intro s hs
    rw [List.mem_singleton.1 hs]
    exact ⟨[], (List.append_nil _).symm, .here _ _⟩

end Yields

mutual

/-- The statements that a tree contributes come from nodes of the tree. `stop` is where a field
would end. -/
theorem exists_yields (place : Place) (before : Text) (behind : List Tree) :
    ∀ t : Tree, ∃ sites, Yields before (t :: behind) sites
      (Statement.preorderAll (outline place (origin.advance before)
        (origin.advance (before ++ t.text ++
          if place = .members then (semicolonBehind? behind).getD [] else [])) t))
  | leaf _ _ => ⟨[], by simpa [outline] using Yields.nil _ _⟩
  | missing _ => ⟨[], by simpa [outline] using Yields.nil _ _⟩
  | node k ts => by
    rw [outline]
    split
    · next inner _ =>
      obtain ⟨sites, h⟩ := exists_yieldsAll inner before ts
      exact ⟨sites, h.inside⟩
    · split
      · next kind inner hc =>
        obtain ⟨sites, h⟩ := exists_yieldsAll inner before ts
        refine ⟨⟨before, k, ts, behind⟩ :: sites, ?_⟩
        simp only [Statement.preorderAll_cons, Statement.preorderAll_nil, List.append_nil,
          Statement.preorder_compound]
        exact (Yields.here (makes_compound hc _)).append h.inside
      · split
        · next kind hs =>
          refine ⟨[⟨before, k, ts, behind⟩], ?_⟩
          simp only [Statement.preorderAll_cons, Statement.preorderAll_nil, List.append_nil,
            Statement.preorder_simple]
          rw [text_node]
          exact Yields.here (makes_simple hs)
        · split
          · next he =>
            split
            · refine ⟨[⟨before, k, ts, behind⟩], ?_⟩
              simp only [Statement.preorderAll_cons, Statement.preorderAll_nil, List.append_nil,
                Statement.preorder_simple]
              exact Yields.here (makes_exports (of_decide_eq_true (Bool.and_eq_true_iff.1 he).1))
            · obtain ⟨sites, h⟩ := exists_yieldsAll .exported before ts
              exact ⟨sites, h.inside⟩
          · exact ⟨[], by simpa using Yields.nil _ _⟩

/-- The same for trees that follow one another. -/
theorem exists_yieldsAll (place : Place) (before : Text) :
    ∀ ts : List Tree, ∃ sites, Yields before ts sites
      (Statement.preorderAll (outlineAll place (origin.advance before) ts))
  | [] => ⟨[], by simpa [outlineAll] using Yields.nil _ _⟩
  | t :: ts => by
    obtain ⟨sites, h⟩ := exists_yields place before ts t
    obtain ⟨sites', h'⟩ := exists_yieldsAll place (before ++ t.text) ts
    refine ⟨sites ++ sites', ?_⟩
    rw [outlineAll]
    simp only [stop_eq]
    rw [Statement.preorderAll_append, advance_eq, ← Position.advance_append]
    exact h.append h'.later

end

/-- The statements of a tree come from nodes of the tree. -/
theorem exists_sites (t : Tree) : ∃ sites : List Site, (∀ s ∈ sites, s.IsIn t) ∧
    List.Forall₂ Site.Makes sites (Statement.preorderAll (outlineAll .list origin t.children)) := by
  have hyields : ∃ sites, Yields [] [t] sites
      (Statement.preorderAll (outlineAll .list origin t.children)) := by
    cases t with
    | leaf _ _ => exact ⟨[], by simpa [children, outlineAll] using Yields.nil _ _⟩
    | missing _ => exact ⟨[], by simpa [children, outlineAll] using Yields.nil _ _⟩
    | node k ts =>
      obtain ⟨sites, h⟩ := exists_yieldsAll .list [] ts
      exact ⟨sites, h.inside⟩
  obtain ⟨sites, h⟩ := hyields
  refine ⟨sites, ?_, h.makes⟩
  intro s hs
  obtain ⟨b, hb, hin⟩ := h.holds s hs
  rw [List.nil_append] at hb
  rw [Site.IsIn, hb]
  exact hin

end Tree

/-- A token and what stands around it. -/
structure TokenSite where
  /-- The text before the token. -/
  before : Text
  /-- The token. -/
  token : Token
  /-- The text behind it. -/
  after : Text

/-- The token stands between the two texts, and its span says so. -/
structure TokenSite.IsIn (s : TokenSite) (text : Text) : Prop where
  /-- The text is made of the token and what stands around it. -/
  text_eq : text = s.before ++ s.token.value ++ s.after
  /-- The span covers the token. -/
  span_eq : s.token.span = .cover (Position.origin.advance s.before) s.token.value

namespace Tree

open Position (origin)

mutual

theorem exists_tokenSites_of (before after : Text) : ∀ t : Tree, ∃ sites : List TokenSite,
    sites.map (·.token) = t.tokens (origin.advance before) ∧
      ∀ s ∈ sites, s.IsIn (before ++ t.text ++ after)
  | leaf kind chars => by
    unfold tokens
    split
    · refine ⟨[⟨before, _, after⟩], rfl, ?_⟩
      intro s hs
      rw [List.mem_singleton.1 hs]
      exact ⟨by rw [text_leaf], rfl⟩
    · exact ⟨[], rfl, by simp⟩
  | missing _ => ⟨[], by rw [tokens]; rfl, by simp⟩
  | node _ ts => by
    rw [tokens, text_node]
    exact exists_tokenSitesAll_of before after ts

theorem exists_tokenSitesAll_of (before after : Text) : ∀ ts : List Tree, ∃ sites : List TokenSite,
    sites.map (·.token) = tokensOf (origin.advance before) ts ∧
      ∀ s ∈ sites, s.IsIn (before ++ textOf ts ++ after)
  | [] => ⟨[], by rw [tokensOf]; rfl, by simp⟩
  | t :: ts => by
    obtain ⟨sites, hmap, hin⟩ := exists_tokenSites_of before (textOf ts ++ after) t
    obtain ⟨sites', hmap', hin'⟩ := exists_tokenSitesAll_of (before ++ t.text) after ts
    refine ⟨sites ++ sites', ?_, ?_⟩
    · rw [List.map_append, hmap, hmap', tokensOf, advance_eq, Position.advance_append]
    · intro s hs
      rw [textOf_cons]
      rcases List.mem_append.1 hs with hs | hs
      · simpa only [List.append_assoc] using hin s hs
      · simpa only [List.append_assoc] using hin' s hs

end

/-- The tokens of a tree are pieces of its text. -/
theorem exists_tokenSites (t : Tree) : ∃ sites : List TokenSite,
    sites.map (·.token) = t.tokens origin ∧ ∀ s ∈ sites, s.IsIn t.text := by
  obtain ⟨sites, hmap, hin⟩ := exists_tokenSites_of [] [] t
  rw [List.nil_append, List.append_nil] at hin
  exact ⟨sites, hmap, hin⟩

end Tree

end ScriptStyle
