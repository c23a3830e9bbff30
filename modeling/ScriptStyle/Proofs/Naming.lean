import ScriptStyle.Proofs.Groups
import ScriptStyle.Proofs.Matches
import ScriptStyle.Lint.Linter

/-!
# Patterns for names

A pattern for names is not read as it was written but between the two assertions that the text
begins and that it ends. For a text that spells a pattern of its own this is the same: a name is
accepted if and only if the pattern matches it from its first to its last character
(`Naming.nameMessages_iff`). Such a text is refused all the same if it ends in a comment, which
swallows the second assertion, or if the assertions make it too large.

A text that spells no pattern of its own may be accepted. It has to close the group that it is put
into, behind a beginning that is a pattern of its own. If no text does so, building a linter fails
with the first pattern that cannot be used (`Linter.ofSettings_error_iff`).
-/

namespace ScriptStyle

open Pattern

/-! ## Patterns between assertions -/

namespace Pattern

/-- The pattern that a text spells, whatever its size. -/
def read? (t : Text) : Option Pattern := Progress.start.readAll t

theorem ofText?_eq (t : Text) :
    ofText? t = (read? t).bind fun p => if p.isAffordable = true then some p else none := by
  refine Option.bind_congr fun p _ => ?_
  by_cases hp : p.isAffordable = true
  · rw [if_pos hp, hp]
    rfl
  · rw [if_neg hp, Bool.eq_false_iff.2 hp]
    rfl

theorem ofText?_eq_some {t : Text} {p : Pattern} :
    ofText? t = some p ↔ read? t = some p ∧ p.isAffordable = true := by
  rw [ofText?_eq, Option.bind_eq_some_iff]
  constructor
  · rintro ⟨q, hq, h⟩
    split at h
    · next haffordable =>
      cases h
      exact ⟨hq, haffordable⟩
    · cases h
  · rintro ⟨hp, haffordable⟩
    exact ⟨p, hp, if_pos haffordable⟩

/-- A closing parenthesis behind the text would go unnoticed. If the text spells a pattern, this is
so because it ends in a comment. -/
def endsInComment (t : Text) : Bool := (read? (t ++ [')'])).isSome

/-- A parenthesis behind a pattern of its own closes the group that the text is put into. -/
def ClosesEarly (t : Text) : Prop :=
  ∃ u v, t = u ++ ')' :: v ∧ (read? u).isSome = true ∧ endsInComment u = false

namespace Progress

/-- The group around a pattern between assertions, up to the pattern. -/
def root : Group := start.group.add (.assertion .textStart)

theorem readAll_wrap (t : Text) :
    start.readAll (NamePattern.wrap t) = (start.under [root]).readAll (t ++ [')', '$']) := by
  have hwrap : NamePattern.wrap t = '^' :: '(' :: '?' :: ':' :: (t ++ [')', '$']) := by
    simp [NamePattern.wrap]
  have hcaret (r : Text) :
      start.readAll ('^' :: r) = (start.add (.assertion .textStart)).readAll r := by
    have hskip : start.mode.skip ('^' :: r) = '^' :: r := rfl
    exact readAll_cons hskip
  have hgroup (r : Text) : (start.add (.assertion .textStart)).readAll ('(' :: '?' :: ':' :: r) =
      (start.under [root]).readAll r := by
    have hskip : start.mode.skip ('(' :: '?' :: ':' :: r) = '(' :: '?' :: ':' :: r := rfl
    exact readAll_cons (g := start.add (.assertion .textStart)) hskip
  rw [hwrap, hcaret, hgroup]

theorem finish_eq_some {g : Progress} {p : Pattern} :
    g.finish = some p ↔ g.outer = [] ∧ g.group.pattern = p := by
  rw [finish]
  cases g.outer <;> simp

theorem readAll_paren {g : Progress} (h : g.outer = []) (more : Text) :
    g.readAll (')' :: more) = none := by
  have hstep : g.step ')' more = none := by
    change g.leave.map _ = none
    rw [leave, h]
    rfl
  rw [readAll_cons (skip_paren g.mode more), hstep]
  rfl

theorem readAll_stop {g : Progress} (houter : g.outer = [])
    (hopened : OpenedAs g.group start.group) :
    (g.under [root]).readAll [')', '$'] = some g.group.pattern.whole := by
  obtain ⟨mode, names, ⟨capturing, outerMode, branches, items⟩, outer⟩ := g
  obtain rfl : outer = [] := houter
  obtain ⟨rfl, rfl⟩ : capturing = false ∧ outerMode = {} := hopened
  rw [readAll_cons (skip_paren _ ['$'])]
  rfl

section

variable {g : Progress} {t : Text}

/-- A parenthesis that closes no group is an error. -/
theorem Reads.readAll_paren (h : Reads start t g) (houter : g.outer = []) (more : Text) :
    start.readAll (t ++ ')' :: more) = none := by
  have hclosed := h.closed [] more
  rwa [under_nil, under_nil, Progress.readAll_paren houter] at hclosed

theorem Reads.endsInComment_eq_false (h : Reads start t g) (houter : g.outer = []) :
    endsInComment t = false := by
  rw [endsInComment, read?, h.readAll_paren houter]
  rfl

theorem EndsInComment.endsInComment_eq_true {p : Pattern} (h : EndsInComment start t g)
    (hfinish : g.finish = some p) : endsInComment t = true := by
  have hlost := h.lost [] [] List.not_mem_nil
  rw [under_nil, under_nil, hfinish] at hlost
  rw [endsInComment, read?, hlost]
  rfl

end

end Progress

/-- What a text that is read whole is read as between the assertions. -/
theorem read?_wrap {t : Text} {q : Pattern} (h : read? t = some q) :
    read? (NamePattern.wrap t) = if endsInComment t then none else some q.whole := by
  obtain ⟨g, hfinish, hopened, hreads⟩ := Progress.exists_reads h
  obtain ⟨houter, rfl⟩ := Progress.finish_eq_some.1 hfinish
  rw [read?, Progress.readAll_wrap]
  rcases hreads with hreads | hcomment
  · rw [houter] at hopened
    rw [hreads.endsInComment_eq_false houter, hreads.closed [Progress.root] ['$'],
      Progress.readAll_stop houter hopened]
    rfl
  · rw [hcomment.endsInComment_eq_true hfinish, hcomment.lost [Progress.root] ['$'] (by decide),
      Progress.finish_under (List.cons_ne_nil _ _)]
    rfl

/-- A text that is read whole leaves no parenthesis to close the group around it, so only texts that
are not well formed can close it early. -/
theorem not_closesEarly {t : Text} {q : Pattern} (h : read? t = some q) : ¬ClosesEarly t := by
  rintro ⟨u, v, rfl, hu, hends⟩
  obtain ⟨p, hp⟩ := Option.isSome_iff_exists.1 hu
  obtain ⟨g, hfinish, -, hreads | hcomment⟩ := Progress.exists_reads hp
  · obtain ⟨houter, -⟩ := Progress.finish_eq_some.1 hfinish
    rw [read?, hreads.readAll_paren houter] at h
    cases h
  · rw [hcomment.endsInComment_eq_true hfinish] at hends
    cases hends

end Pattern

/-! ## The patterns for names -/

/-- The pattern for names that a text of its own spells accepts what the text matches from its first
to its last character. -/
theorem NamePattern.accepts_iff {t : Text} {p : NamePattern} {q : Pattern}
    (hp : NamePattern.ofText? t = some p) (hq : Pattern.ofText? t = some q) (name : Text) :
    p.accepts name = true ↔ q.MatchesWhole name := by
  obtain ⟨w, hw, rfl⟩ := Option.map_eq_some_iff.1 hp
  obtain ⟨hread, -⟩ := ofText?_eq_some.1 hq
  obtain ⟨hwrap, -⟩ := ofText?_eq_some.1 hw
  rw [read?_wrap hread] at hwrap
  split at hwrap
  · cases hwrap
  · cases hwrap
    exact isMatch_whole q name

namespace NameRules

theorem compile_eq_error {s : NamingPatterns} {k : NameKind} {e : PatternError} :
    compile s k = .error e ↔
      e.kind = k ∧ k.setting s = some e.pattern ∧ NamePattern.ofText? e.pattern = none := by
  unfold compile
  cases hset : k.setting s with
  | none => simp
  | some t =>
    dsimp only
    cases hp : NamePattern.ofText? t with
    | none =>
      constructor
      · rintro h
        cases h
        exact ⟨rfl, rfl, hp⟩
      · rintro ⟨rfl, ht, -⟩
        cases ht
        rfl
    | some p =>
      constructor
      · intro h
        cases h
      · rintro ⟨rfl, ht, hnone⟩
        cases ht
        rw [hp] at hnone
        cases hnone

theorem exists_compile_eq_ok {s : NamingPatterns} {k : NameKind} :
    (∃ p, compile s k = .ok p) ↔ ∀ t, k.setting s = some t → NamePattern.ofText? t ≠ none := by
  unfold compile
  cases k.setting s with
  | none => simp
  | some t => cases hp : NamePattern.ofText? t <;> simp [hp]

end NameRules

/-- The error names the first kind of names, in the order in which patterns are read, with a bad
pattern, and holds that pattern as it was written. -/
def PatternError.IsFirst (e : PatternError) (s : NamingPatterns) (bad : Text → Prop) : Prop :=
  e.kind.setting s = some e.pattern ∧ bad e.pattern ∧
    ∃ before after, NameKind.all = before ++ e.kind :: after ∧
      ∀ k ∈ before, ∀ t, k.setting s = some t → ¬bad t

/-- A list of computations fails with the first error. -/
theorem mapM_eq_error {α β ε : Type} {f : α → Except ε β} {xs : List α} {e : ε} :
    xs.mapM f = .error e ↔ ∃ before x after, xs = before ++ x :: after ∧ f x = .error e ∧
      ∀ y ∈ before, ∃ b, f y = .ok b := by
  induction xs with
  | nil => simp [pure, Except.pure]
  | cons y ys ih =>
    rw [List.mapM_cons]
    cases hy : f y with
    | error e' =>
      constructor
      · intro h
        cases h
        exact ⟨[], y, ys, rfl, hy, fun _ h => absurd h List.not_mem_nil⟩
      · rintro ⟨before, x, after, hxs, hx, hbefore⟩
        cases before with
        | nil =>
          obtain ⟨rfl, -⟩ := List.cons.inj hxs
          rw [hy] at hx
          cases hx
          rfl
        | cons z before =>
          obtain ⟨rfl, -⟩ := List.cons.inj hxs
          obtain ⟨b, hb⟩ := hbefore y List.mem_cons_self
          rw [hy] at hb
          cases hb
    | ok b =>
      have hrest : (do let b ← Except.ok b; let bs ← ys.mapM f; Pure.pure (b :: bs)) =
          (Except.error e : Except ε (List β)) ↔ ys.mapM f = .error e := by
        cases ys.mapM f <;> simp [pure, Except.pure, bind, Except.bind]
      rw [hrest, ih]
      constructor
      · rintro ⟨before, x, after, rfl, hx, hbefore⟩
        refine ⟨y :: before, x, after, rfl, hx, ?_⟩
        rintro z hz
        rcases List.mem_cons.1 hz with rfl | hz
        · exact ⟨b, hy⟩
        · exact hbefore z hz
      · rintro ⟨before, x, after, hxs, hx, hbefore⟩
        cases before with
        | nil =>
          obtain ⟨rfl, -⟩ := List.cons.inj hxs
          rw [hy] at hx
          cases hx
        | cons z before =>
          obtain ⟨rfl, rfl⟩ := List.cons.inj hxs
          exact ⟨before, x, after, rfl, hx, fun w hw => hbefore w (List.mem_cons_of_mem _ hw)⟩

namespace NameRules

theorem ofSettings_eq_error {s : NamingPatterns} {e : PatternError} :
    ofSettings s = .error e ↔ e.IsFirst s (NamePattern.ofText? · = none) := by
  have hlist : ofSettings s = .error e ↔ NameKind.all.mapM (compile s) = .error e := by
    rw [ofSettings, NameKind.all]
    simp only [List.mapM_cons, List.mapM_nil]
    cases compile s .variableName <;> cases compile s .constantName <;>
      cases compile s .functionName <;> cases compile s .className <;>
        simp [pure, Except.pure, bind, Except.bind]
  rw [hlist, mapM_eq_error]
  constructor
  · rintro ⟨before, k, after, hall, hk, hbefore⟩
    obtain ⟨rfl, hset, hnone⟩ := compile_eq_error.1 hk
    exact ⟨hset, hnone, before, after, hall, fun k hk => exists_compile_eq_ok.1 (hbefore k hk)⟩
  · rintro ⟨hset, hnone, before, after, hall, hbefore⟩
    exact ⟨before, e.kind, after, hall, compile_eq_error.2 ⟨rfl, hset, hnone⟩,
      fun k hk => exists_compile_eq_ok.2 (hbefore k hk)⟩

theorem compile_of_ofSettings {s : NamingPatterns} {r : NameRules} (h : ofSettings s = .ok r)
    (k : NameKind) : compile s k = .ok (r.pattern? k) := by
  rw [ofSettings] at h
  cases hvar : compile s .variableName <;> cases hconst : compile s .constantName <;>
    cases hfun : compile s .functionName <;> cases hclass : compile s .className <;>
      simp only [hvar, hconst, hfun, hclass] at h <;> cases h
  cases k
  · exact hvar
  · exact hconst
  · exact hfun
  · exact hclass

end NameRules

theorem Checker.build_eq_error {s : Settings} {c : Check} {e : PatternError} :
    Checker.build s c = .error e ↔
      c = .correctNaming ∧ NameRules.ofSettings s.namingPatterns = .error e := by
  cases c with
  | correctNaming =>
    rw [build]
    cases NameRules.ofSettings s.namingPatterns <;> simp [Except.map]
  | missingSemicolons => simp [build]
  | emptyLines => simp [build]
  | spacesStyle => simp [build]

/-- A linter can be built unless names are checked and one of their patterns cannot be read. -/
theorem Linter.ofSettings_eq_error {s : Settings} {e : PatternError} :
    Linter.ofSettings s = .error e ↔
      .correctNaming ∈ s.enabled ∧ NameRules.ofSettings s.namingPatterns = .error e := by
  have hmap : Linter.ofSettings s = .error e ↔ s.enabled.mapM (Checker.build s) = .error e := by
    rw [Linter.ofSettings]
    cases s.enabled.mapM (Checker.build s) <;> simp [Except.map]
  rw [hmap, mapM_eq_error]
  constructor
  · rintro ⟨before, c, after, hall, hc, -⟩
    obtain ⟨rfl, herror⟩ := Checker.build_eq_error.1 hc
    refine ⟨?_, herror⟩
    rw [hall]
    exact List.mem_append_right before List.mem_cons_self
  · rintro ⟨hmem, herror⟩
    obtain ⟨before, after, hall, hbefore⟩ := List.eq_append_cons_of_mem hmem
    refine ⟨before, .correctNaming, after, hall, Checker.build_eq_error.2 ⟨rfl, herror⟩, ?_⟩
    intro c hc
    cases hbuild : Checker.build s c with
    | ok checker => exact ⟨checker, rfl⟩
    | error e =>
      obtain ⟨rfl, -⟩ := Checker.build_eq_error.1 hbuild
      exact absurd hc hbefore

theorem NameRules.pattern?_eq_some {s : NamingPatterns} {r : NameRules}
    (hr : NameRules.ofSettings s = .ok r) {k : NameKind} {written : Text}
    (hk : k.setting s = some written) :
    ∃ p, r.pattern? k = some p ∧ NamePattern.ofText? written = some p := by
  have hcompile := compile_of_ofSettings hr k
  rw [compile, hk] at hcompile
  dsimp only at hcompile
  split at hcompile
  · next p hp => exact ⟨p, (Except.ok.inj hcompile).symm, hp⟩
  · cases hcompile

namespace Naming

/-- A name is reported if and only if the pattern for its kind has no match from its first to its
last character. -/
theorem nameMessages_iff {s : NamingPatterns} {r : NameRules} (hr : NameRules.ofSettings s = .ok r)
    {k : NameKind} {written : Text} (hk : k.setting s = some written) {q : Pattern}
    (hq : Pattern.ofText? written = some q) (i : Identifier) :
    (q.MatchesWhole i.name → nameMessages r k i = []) ∧
    (¬q.MatchesWhole i.name → nameMessages r k i =
      [k.label.toList ++ " name ".toList ++ i.name ++ " not in pattern ".toList ++ written]) := by
  obtain ⟨p, hpattern, hp⟩ := NameRules.pattern?_eq_some hr hk
  have haccepts := NamePattern.accepts_iff hp hq i.name
  have hwritten : p.written = written := by
    obtain ⟨w, -, rfl⟩ := Option.map_eq_some_iff.1 hp
    rfl
  rw [nameMessages, hpattern]
  dsimp only
  constructor
  · intro hmatch
    exact if_pos (haccepts.2 hmatch)
  · intro hmatch
    rw [if_neg fun h => hmatch (haccepts.1 h), nameMessage, hwritten]

/-- A pattern with two branches, one the beginning of the other. -/
def branching : Pattern :=
  .alternation (.set (.singleton 'a')) (.concat (.set (.singleton 'a')) (.set (.singleton 'b')))

/-- The first branch matches the beginning of `ab`, and `ab` is accepted; the second matches the
beginning of `abc`, and `abc` is reported. -/
theorem nameMessages_branching :
    NameRules.ofSettings { variableNames := some "a|ab".toList } =
        .ok { variableNames := some ⟨"a|ab".toList, branching.whole⟩ } ∧
      nameMessages { variableNames := some ⟨"a|ab".toList, branching.whole⟩ } .variableName
        ⟨"ab".toList, ⟨⟨1, 4⟩, ⟨1, 6⟩⟩⟩ = [] ∧
      nameMessages { variableNames := some ⟨"a|ab".toList, branching.whole⟩ } .variableName
        ⟨"abc".toList, ⟨⟨1, 4⟩, ⟨1, 7⟩⟩⟩ = ["variable name abc not in pattern a|ab".toList] := by
  have hrules : NameRules.ofSettings { variableNames := some "a|ab".toList } =
      .ok { variableNames := some ⟨"a|ab".toList, branching.whole⟩ } := rfl
  have hread : Pattern.ofText? "a|ab".toList = some branching := rfl
  have hmatch : branching.MatchesWhole "ab".toList := (isMatch_whole _ _).1 rfl
  have hmiss : ¬branching.MatchesWhole "abc".toList := by
    intro h
    exact absurd ((isMatch_whole _ _).2 h) (by decide)
  have hpattern : NameKind.setting .variableName { variableNames := some "a|ab".toList } =
      some "a|ab".toList := rfl
  exact ⟨hrules, (nameMessages_iff hrules hpattern hread _).1 hmatch,
    (nameMessages_iff hrules hpattern hread _).2 hmiss⟩

end Naming

namespace Linter

/-- Settings that ask for names alone. -/
def naming (patterns : NamingPatterns) : Settings :=
  { Settings.default with checkers := { correctNaming := true }, namingPatterns := patterns }

end Linter

end ScriptStyle
