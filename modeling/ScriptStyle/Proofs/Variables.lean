import ScriptStyle.Lint.Linter
import ScriptStyle.Proofs.Acceptance
import ScriptStyle.Proofs.Spots

/-!
# Declarations by the word `var`

Outside of expressions the word `var` begins a declaration that is a statement, or it stands in the
head of a loop: as the declaration that a counting loop begins with, or before the name for the
members of a value. `Linter.filter_varMessage` says which of them a linter reports, whatever its
other checks and its patterns are: each declaration that is a statement, wherever it stands, once and
in the line where it begins, and none that stands in the head of a loop. The outline of a loop holds
its body only.
-/

namespace ScriptStyle

/-! ## The declarations of a tree -/

theorem Tree.exists_program_of_parse? {text : Text} {t : Tree} (h : parse? text = some t) :
    ∃ ts, t = .node .program ts := by
  rw [parse?] at h
  split at h
  · next c _ =>
    cases h
    exact ⟨c.done.reverse, rfl⟩
  · cases h

namespace Spot

/-- The node stands in the head of a counting loop that is a statement. -/
def isInHead (s : Spot) : Bool :=
  match s.around with
  | .loopHead :: .forStatement :: around => leadTo .forStatement around
  | _ => false

/-- The node is a loop over the members of a value with the word `var` in its head. -/
def hasVarHead (s : Spot) : Bool :=
  s.site.kind = .forInStatement && s.site.parts.any (·.isLexeme .keyword ['v', 'a', 'r'])

/-- The node declares by the word `var` in the head of a loop. -/
def declaresInHead (s : Spot) : Bool :=
  s.site.kind = .varDeclaration && s.isInHead || s.isStatement && s.hasVarHead

/-- The node declares by the word `var` outside of expressions: as a statement or in the head of a
loop. -/
def declaresVar (s : Spot) : Bool :=
  s.site.kind = .varDeclaration && s.isStatement || s.declaresInHead

theorem isStatement_of_isInHead {s : Spot} (h : s.isInHead = true) : s.isStatement = false := by
  rcases s with ⟨site, around⟩
  unfold isInHead at h
  split at h
  · next heq =>
    dsimp only at heq
    subst heq
    rfl
  · cases h

/-- What declares outside of the heads of loops is a statement. -/
theorem declaresVar_and_not_declaresInHead (s : Spot) :
    (s.declaresVar && !s.declaresInHead) =
      (s.isStatement && decide (s.site.kind = .varDeclaration)) := by
  have hhead := s.isStatement_of_isInHead
  rw [declaresVar, declaresInHead, hasVarHead]
  by_cases hkind : s.site.kind = .varDeclaration
  · simp only [hkind]
    cases hin : s.isInHead with
    | false => cases s.isStatement <;> rfl
    | true =>
      rw [hhead hin]
      rfl
  · simp only [decide_eq_false hkind, Bool.false_and, Bool.false_or, Bool.and_false]
    exact Bool.and_not_self _

/-- The warning that is due for a declaration by the word `var`. -/
def varWarning (filename : Text) (s : Spot) : Diagnostic :=
  .warning .correctNaming Naming.varMessage filename (s.site.before.count '\n' + 1)

end Spot

/-- The declarations by the word `var` in a tree outside of its expressions. -/
def Tree.varSpots (t : Tree) : List Spot := t.allSpots.filter (·.declaresVar)

/-! ## The warnings about them -/

namespace Site

variable {s : Site}

theorem span_eq {st : Statement} (h : s.Makes st) : st.span = s.span := by
  cases st <;> exact h.2

/-- What declares by the word `var` is a declaration by this word. -/
theorem kind_eq_varDeclaration_iff {kind : SimpleKind} (h : s.simpleKind? = some kind) :
    s.kind = .varDeclaration ↔ ∃ names, kind = .declaration .var names := by
  constructor
  · intro hk
    rw [simpleKind?, hk] at h
    cases h
    exact ⟨_, rfl⟩
  · rintro ⟨names, rfl⟩
    rw [simpleKind?] at h
    split at h
    · cases h
    · cases h
    · unfold Tree.simpleKind? at h
      split at h
      · next hk => exact hk
      · -- The words of the other declarations are `let` and `const`.
        rw [Tree.declarationKind] at h
        split at h <;> cases h
      all_goals cases h

theorem kind_ne_of_compoundKind? {kind : CompoundKind} (h : s.compoundKind? = some kind) :
    s.kind ≠ .varDeclaration := by
  intro hk
  rw [compoundKind?, hk] at h
  cases h

end Site

/-- The statement is a declaration by the word `var`. -/
def Statement.isVar : Statement → Bool
  | simple (.declaration .var _) _ => true
  | _ => false

/-- Declarations by the word `var` come from the nodes of such declarations. -/
theorem Site.Makes.isVar_eq {s : Site} {st : Statement} (h : s.Makes st) :
    st.isVar = decide (s.kind = .varDeclaration) := by
  rw [Bool.eq_iff_iff, decide_eq_true_iff]
  cases st with
  | simple kind span =>
    rw [kind_eq_varDeclaration_iff h.1]
    constructor
    · intro hvar
      unfold Statement.isVar at hvar
      split at hvar
      · next names _ heq =>
        cases heq
        exact ⟨names, rfl⟩
      · cases hvar
    · rintro ⟨names, rfl⟩
      rfl
  | compound kind span body =>
    constructor
    · rintro ⟨⟩
    · intro hk
      exact absurd hk (kind_ne_of_compoundKind? h.1)

namespace Naming

theorem varMessage_not_mem_nameMessages (r : NameRules) (k : NameKind) (i : Identifier) :
    varMessage ∉ nameMessages r k i := by
  rw [nameMessages]
  split
  · exact List.not_mem_nil
  · split
    · exact List.not_mem_nil
    · rw [List.mem_singleton]
      intro h
      have hhead := congrArg List.head? h
      cases k <;> cases hhead

/-- Of what is said about a statement, only what is said about the word `var` is said so. -/
theorem filter_messages (r : NameRules) (st : Statement) :
    (messages r st).filter (· = varMessage) = if st.isVar then [varMessage] else [] := by
  have hnames (k : NameKind) (names : List Identifier) :
      (names.flatMap (nameMessages r k)).filter (· = varMessage) = [] := by
    rw [List.filter_eq_nil_iff]
    intro message hmessage
    obtain ⟨i, -, hi⟩ := List.mem_flatMap.1 hmessage
    rw [decide_eq_true_iff]
    rintro rfl
    exact varMessage_not_mem_nameMessages r k i hi
  cases st with
  | simple kind span =>
    cases kind with
    | declaration word names =>
      rw [messages, List.filter_append, hnames, List.append_nil]
      cases word <;> rfl
    | _ => rfl
  | compound kind span body =>
    cases kind with
    | function name => exact hnames .functionName name.toList
    | classBody name => exact hnames .className name.toList
    | _ => rfl

/-- The warnings about the word `var` among the warnings about some statements. -/
theorem filter_warnings {spots : List Spot} {ss : List Statement}
    (h : List.Forall₂ Spot.Makes spots ss) (r : NameRules) (filename : Text) :
    (ss.flatMap fun st => (messages r st).map
        (Diagnostic.warning .correctNaming · filename st.span.start.line)).filter
      (·.message = varMessage) =
      (spots.filter (·.site.kind = .varDeclaration)).map (Spot.varWarning filename) := by
  induction h with
  | nil => rfl
  | @cons s st spots ss hst _ ih =>
    have hline : st.span.start.line = s.site.before.count '\n' + 1 := by
      rw [Site.span_eq hst.makes, Site.span, Site.start, Text.advance_origin]
    have hown : ((messages r st).map
        (Diagnostic.warning .correctNaming · filename st.span.start.line)).filter
          (·.message = varMessage) =
        ((messages r st).filter (· = varMessage)).map
          (Diagnostic.warning .correctNaming · filename st.span.start.line) :=
      List.filter_map
    rw [List.flatMap_cons, List.filter_append, ih, hown, filter_messages r st,
      hst.makes.isVar_eq, hline, List.filter_cons]
    by_cases hk : s.site.kind = .varDeclaration
    · rw [decide_eq_true hk]
      rfl
    · rw [decide_eq_false hk]
      rfl

/-- What the check of names says about the word `var` is said about the declarations that are
statements. -/
theorem filter_check (r : NameRules) (ts : List Tree) (filename : Text) :
    (check r (.ofTree (.node .program ts) filename)).filter (·.message = varMessage) =
      ((Tree.node .program ts).varSpots.filter (!·.declaresInHead)).map
        (Spot.varWarning filename) := by
  have hspots : ((Tree.node .program ts).varSpots.filter (!·.declaresInHead)) =
      ((Tree.node .program ts).allSpots.filter (·.isStatement)).filter
        (·.site.kind = .varDeclaration) := by
    rw [Tree.varSpots, List.filter_filter, List.filter_filter]
    refine List.filter_congr fun s _ => ?_
    rw [Bool.and_comm, s.declaresVar_and_not_declaresInHead, Bool.and_comm]
  rw [hspots]
  exact filter_warnings (Tree.forall₂_outlineAll rfl rfl [] ts) r filename

end Naming

theorem exists_of_map_eq_ok {ε α β : Type} {f : α → β} {x : Except ε α} {b : β}
    (h : x.map f = .ok b) : ∃ a, x = .ok a ∧ f a = b := by
  cases x with
  | error e => cases h
  | ok a => exact ⟨a, rfl, Except.ok.inj h⟩

/-- A list of computations that succeeds has the result of each in its place. -/
theorem forall₂_of_mapM_eq_ok {ε α β : Type} {f : α → Except ε β} {xs : List α} {ys : List β}
    (h : xs.mapM f = .ok ys) : List.Forall₂ (fun x y => f x = .ok y) xs ys := by
  induction xs generalizing ys with
  | nil =>
    cases h
    exact .nil
  | cons x xs ih =>
    rw [List.mapM_cons] at h
    cases hy : f x with
    | error e =>
      rw [hy] at h
      cases h
    | ok y =>
      cases hys : xs.mapM f with
      | error e =>
        rw [hy, hys] at h
        cases h
      | ok ys =>
        rw [hy, hys] at h
        cases h
        exact .cons hy (ih hys)

namespace Checker

/-- Only the check of names speaks of the word `var`. -/
theorem filter_check {k : Checker} (hk : k.id ≠ .correctNaming) (m : Model) :
    (k.check m).filter (·.message = Naming.varMessage) = [] := by
  rw [List.filter_eq_nil_iff]
  intro d hd
  rw [decide_eq_true_iff]
  intro hmessage
  have hhead := congrArg List.head? hmessage
  cases k with
  | naming rules => exact hk rfl
  | semicolons =>
    obtain ⟨st, -, rfl⟩ := List.mem_map.1 hd
    cases hhead
  | emptyLines width =>
    rcases List.mem_append.1 hd with hd | hd
    all_goals
      obtain ⟨i, -, rfl⟩ := List.mem_map.1 hd
      cases hhead
  | spacing rules =>
    obtain ⟨t, -, ht⟩ := List.mem_filterMap.1 hd
    rw [Spacing.warning?] at ht
    split at ht
    · obtain ⟨rule, -, rfl⟩ := Option.map_eq_some_iff.1 ht
      rcases rule with ⟨operator, side⟩
      cases side <;> cases hhead
    · cases ht

theorem id_of_build {s : Settings} {c : Check} {k : Checker} (h : build s c = .ok k) :
    k.id = c := by
  cases c with
  | correctNaming =>
    obtain ⟨rules, -, rfl⟩ := exists_of_map_eq_ok h
    rfl
  | _ =>
    cases h
    rfl

theorem map_id_of_mapM {s : Settings} {cs : List Check} {ks : List Checker}
    (h : cs.mapM (build s) = .ok ks) : ks.map (·.id) = cs := by
  have hks := forall₂_of_mapM_eq_ok h
  clear h
  induction hks with
  | nil => rfl
  | cons hk _ ih => rw [List.map_cons, id_of_build hk, ih]

end Checker

namespace Linter

/-- A linter has a checker for each check that is on, in the order of the checks. -/
theorem enabled_of_ofSettings {s : Settings} {l : Linter} (h : ofSettings s = .ok l) :
    l.enabled = s.enabled := by
  obtain ⟨ks, hks, rfl⟩ := exists_of_map_eq_ok h
  exact Checker.map_id_of_mapM hks

/-- A linter has one checker for a check that is on and none for another. -/
theorem map_id_checkers {s : Settings} {l : Linter} (h : ofSettings s = .ok l) (c : Check) :
    (l.checkers.filter (·.id = c)).map (·.id) = if s.checkers.isOn c then [c] else [] := by
  have henabled := congrArg (List.filter (· = c)) (enabled_of_ofSettings h)
  rw [enabled, List.filter_map, Settings.enabled, List.filter_filter] at henabled
  refine henabled.trans ?_
  cases hon : s.checkers.isOn c <;> cases c <;> simp [Check.all, hon]

/-- A linter that checks names has one checker for them. -/
theorem exists_naming {s : Settings} {l : Linter} (h : ofSettings s = .ok l)
    (hon : s.checkers.isOn .correctNaming = true) :
    ∃ rules, l.checkers.filter (·.id = .correctNaming) = [.naming rules] := by
  have hids := map_id_checkers h .correctNaming
  rw [if_pos hon] at hids
  obtain ⟨k, hk, hid⟩ := List.map_eq_singleton_iff.1 hids
  cases k with
  | naming rules => exact ⟨rules, hk⟩
  | _ => cases hid

/-- What a linter says about the word `var` comes from its checkers of names. -/
theorem filter_lint (l : Linter) (m : Model) :
    (l.lint m).filter (·.message = Naming.varMessage) =
      ((l.checkers.filter (·.id = .correctNaming)).flatMap (·.check m)).filter
        (·.message = Naming.varMessage) := by
  rw [lint]
  induction l.checkers with
  | nil => rfl
  | cons k ks ih =>
    rw [List.flatMap_cons, List.filter_append, ih, List.filter_cons]
    by_cases hk : k.id = .correctNaming
    · rw [if_pos (decide_eq_true hk), List.flatMap_cons, List.filter_append]
    · rw [if_neg (by simpa using hk), Checker.filter_check hk, List.nil_append]

/-- Of an accepted text a linter that checks names reports the declarations by the word `var` that
stand outside of expressions and not in the head of a loop: each once, in the order of the text and
in the line where it begins, whatever the names and the patterns are. -/
theorem filter_varMessage {text filename : Text} {m : Model} {s : Settings}
    {found : List Diagnostic} (hm : Model.ofText text filename = .ok m)
    (hon : s.checkers.isOn .correctNaming = true) (hlint : m.lint s = .ok found) :
    found.filter (·.message = Naming.varMessage) =
      ((Tree.ofText text).varSpots.filter (!·.declaresInHead)).map (Spot.varWarning filename) := by
  obtain ⟨t, ht, -, rfl⟩ := Model.ofText_eq_ok_iff.1 hm
  obtain ⟨ts, rfl⟩ := Tree.exists_program_of_parse? ht
  have htree : Tree.ofText text = .node .program ts := by
    rw [Tree.ofText, ht]
  rw [htree]
  obtain ⟨l, hl, rfl⟩ := exists_of_map_eq_ok hlint
  obtain ⟨rules, hrules⟩ := exists_naming hl hon
  rw [filter_lint, hrules, List.flatMap_singleton, Checker.check]
  exact Naming.filter_check rules ts filename

/-- Two loops with a declaration in each of their heads, and one in the body of the inner loop. -/
def varLoops : Text := "for(var i;;)for(var j of k)\nvar l;".toList

/-- Only the checks of names are on, and there are no patterns. -/
def onlyNames : Settings := { Settings.default with checkers := { correctNaming := true } }

theorem ofText_varLoops :
    Model.ofText varLoops [] = .ok (Model.ofTree (Tree.ofText varLoops) []) :=
  Model.ofTree?_eq_ok_iff.2 ⟨by decide +kernel, rfl⟩

theorem lint_varLoops : (Model.ofTree (Tree.ofText varLoops) []).lint onlyNames =
    .ok [.warning .correctNaming Naming.varMessage [] 2] := by
  decide +kernel

/-- The declaration in the body is reported, those in the heads are not. -/
theorem filter_varMessage_varLoops : ∃ m found, Model.ofText varLoops [] = .ok m ∧
    onlyNames.checkers.isOn .correctNaming = true ∧ m.lint onlyNames = .ok found ∧
    found.filter (·.message = Naming.varMessage) =
      ((Tree.ofText varLoops).varSpots.filter (!·.declaresInHead)).map (Spot.varWarning []) ∧
    found = [.warning .correctNaming Naming.varMessage [] 2] :=
  ⟨_, _, ofText_varLoops, rfl, lint_varLoops,
    filter_varMessage ofText_varLoops rfl lint_varLoops, rfl⟩

/-- Three declarations, of which one is reported. -/
theorem varSpots_varLoops : ∃ m found, Model.ofText varLoops [] = .ok m ∧
    m.lint onlyNames = .ok found ∧
    (Tree.ofText varLoops).varSpots.map (Spot.varWarning []) =
      [.warning .correctNaming Naming.varMessage [] 1,
        .warning .correctNaming Naming.varMessage [] 1,
        .warning .correctNaming Naming.varMessage [] 2] ∧
    found = [.warning .correctNaming Naming.varMessage [] 2] :=
  ⟨_, _, ofText_varLoops, lint_varLoops, by decide +kernel, rfl⟩

end Linter

end ScriptStyle
