import ScriptStyle.Proofs.Labels
import ScriptStyle.Proofs.Lines
import ScriptStyle.Proofs.Nesting

/-!
# The order of diagnostics

Nothing sorts the diagnostics of a check. Statements are met in preorder and tokens one after the
other, and the lines come out in the order of the text all the same. For statements this follows from
how they are nested: `Statement.pairwise_preorderAll` says that a preorder goes through the text from
its beginning to its end if the statements are laid out in it. For tokens it follows from what stands
before each of them, and for lines and windows from the way they are counted.

`Linter.filter_lint_check` takes the diagnostics of one check out of those of a linter, which puts
them together check by check.
-/

namespace ScriptStyle

/-! ## Statements -/

namespace Statement

variable {p q : Position} {s t : Statement} {ss ts : List Statement}

theorem mem_preorderAll : t ∈ preorderAll ss ↔ ∃ s ∈ ss, t ∈ s.preorder := by
  induction ss with
  | nil => simp
  | cons s ss ih => simp [ih]

theorem IsLaidOut.sublist (h : IsLaidOut p q ss) (hsub : ts.Sublist ss) : IsLaidOut p q ts := by
  have hmem {s : Statement} (hs : s ∈ preorderAll ts) : s ∈ preorderAll ss := by
    obtain ⟨t, ht, hs⟩ := mem_preorderAll.1 hs
    exact mem_preorderAll.2 ⟨t, hsub.subset ht, hs⟩
  exact ⟨h.apart.sublist hsub, fun s hs => h.within s (hmem hs),
    fun kind span body hbody => h.inner kind span body (hmem hbody)⟩

theorem IsLaidOut.of_mem (h : IsLaidOut p q ss) (hs : s ∈ ss) : IsLaidOut p q [s] :=
  h.sublist (List.singleton_sublist.2 hs)

/-- The body of a statement is laid out inside the statement. -/
theorem IsLaidOut.body {kind : CompoundKind} {span : Span} {body : List Statement}
    (h : IsLaidOut p q [.compound kind span body]) : IsLaidOut span.start span.stop body := by
  obtain ⟨hapart, hwithin⟩ := h.inner kind span body (mem_preorderAll_of_mem List.mem_cons_self)
  refine ⟨hapart, hwithin, fun kind' span' body' hbody' => h.inner kind' span' body' ?_⟩
  simp [hbody']

/-- Whatever stands below a statement stands inside of it. -/
theorem IsLaidOut.isWithin_span (h : IsLaidOut p q [s]) (ht : t ∈ s.preorder) :
    t.span.IsWithin s.span := by
  have hs := h.within s (mem_preorderAll_of_mem List.mem_cons_self)
  have hself : s.span.IsWithin s.span :=
    ⟨Position.le_refl _, hs.start_le_stop, Position.le_refl _⟩
  cases s with
  | simple kind span =>
    rw [preorder_simple, List.mem_singleton] at ht
    rw [ht]
    exact hself
  | compound kind span body =>
    rw [preorder_compound] at ht
    rcases List.mem_cons.1 ht with rfl | ht
    · exact hself
    · exact h.body.within t ht

/-- A statement begins no later than another one. -/
def BeginsFirst (s t : Statement) : Prop := s.span.start.le t.span.start = true

theorem BeginsFirst.line_le (h : s.BeginsFirst t) : s.span.start.line ≤ t.span.start.line := by
  rcases Position.le_iff.1 h with hlt | ⟨heq, -⟩
  · exact Nat.le_of_lt hlt
  · exact Nat.le_of_eq heq

mutual

/-- A statement begins first, and those in its body begin one after the other. -/
theorem pairwise_preorder {p q : Position} :
    ∀ s : Statement, IsLaidOut p q [s] → s.preorder.Pairwise BeginsFirst
  | .simple kind span, _ => by
    rw [preorder_simple]
    exact List.pairwise_singleton _ _
  | .compound kind span body, h => by
    rw [preorder_compound]
    refine List.pairwise_cons.2 ⟨fun t ht => ?_, pairwise_preorderAll body h.body⟩
    exact (h.body.within t ht).start_le

/-- Statements that are laid out between two places begin one after the other, and so do those in
their bodies. -/
theorem pairwise_preorderAll {p q : Position} :
    ∀ ss : List Statement, IsLaidOut p q ss → (preorderAll ss).Pairwise BeginsFirst
  | [], _ => by
    rw [preorderAll_nil]
    exact .nil
  | s :: ss, h => by
    have hs : IsLaidOut p q [s] := h.of_mem List.mem_cons_self
    have hss : IsLaidOut p q ss := h.sublist (List.sublist_cons_self s ss)
    rw [preorderAll_cons]
    refine List.pairwise_append.2 ⟨pairwise_preorder s hs, pairwise_preorderAll ss hss, ?_⟩
    intro t ht u hu
    -- `s` ends before the statement begins that `u` stands in
    obtain ⟨v, hv, hu⟩ := mem_preorderAll.1 hu
    have hapart : s.span.Precedes v.span := (List.pairwise_cons.1 h.apart).1 v hv
    have ht : t.span.IsWithin s.span := hs.isWithin_span ht
    have hu : u.span.IsWithin v.span := (hss.of_mem hv).isWithin_span hu
    have hstop : t.span.start.le s.span.stop = true :=
      Position.le_trans ht.start_le_stop ht.stop_le
    exact Position.le_trans (Position.le_trans hstop hapart) hu.start_le

end

end Statement

/-! ## Lines of diagnostics -/

theorem LineBase.toOneBased_mono (b : LineBase) {i j : Nat} (h : i ≤ j) :
    b.toOneBased i ≤ b.toOneBased j := by
  cases b with
  | one => exact h
  | zero =>
    rw [toOneBased, toOneBased]
    omega

theorem LineBase.toOneBased_lt (b : LineBase) {i j : Nat} (h : i < j) (hj : j < lineLimit) :
    b.toOneBased i < b.toOneBased j := by
  cases b with
  | one => exact h
  | zero =>
    rw [toOneBased, toOneBased]
    omega

namespace Diagnostic

/-- The line of a diagnostic is that of another one, or comes before it. -/
def IsNotBelow (d e : Diagnostic) : Prop := d.oneBasedLine ≤ e.oneBasedLine

/-- The line of a diagnostic comes before that of another one. Counted from one they also have
different numbers, unless there are none in 64 bits. -/
structure IsAbove (d e : Diagnostic) : Prop where
  /-- The line comes first in the count of the check. -/
  line_lt : d.line < e.line
  /-- It comes first if lines are counted from one. -/
  isNotBelow : d.IsNotBelow e
  /-- It then has a smaller number. -/
  oneBasedLine_lt : e.line < LineBase.lineLimit → d.oneBasedLine < e.oneBasedLine

variable {c : Check} {filename message message' : Text} {i j : Nat}

theorem isNotBelow_warning (h : i ≤ j) :
    (warning c message filename i).IsNotBelow (warning c message' filename j) :=
  c.lineBase.toOneBased_mono h

theorem isAbove_warning (h : i < j) :
    (warning c message filename i).IsAbove (warning c message' filename j) where
  line_lt := h
  isNotBelow := isNotBelow_warning (Nat.le_of_lt h)
  oneBasedLine_lt := c.lineBase.toOneBased_lt h

end Diagnostic

/-! ## Semicolons and names -/

section

variable {m : Model} (h : (Statement.preorderAll m.program).Pairwise Statement.BeginsFirst)

include h

theorem Semicolons.pairwise_check : (check m).Pairwise Diagnostic.IsNotBelow := by
  rw [check, List.pairwise_map]
  exact (h.filter _).imp fun hst => Diagnostic.isNotBelow_warning hst.line_le

theorem Naming.pairwise_check (rules : NameRules) :
    (check rules m).Pairwise Diagnostic.IsNotBelow := by
  rw [check, List.pairwise_flatMap]
  constructor
  · intro s _
    rw [List.pairwise_map]
    exact List.pairwise_of_forall fun _ _ => Diagnostic.isNotBelow_warning (Nat.le_refl _)
  · refine h.imp fun hst d hd e he => ?_
    obtain ⟨_, -, rfl⟩ := List.mem_map.1 hd
    obtain ⟨_, -, rfl⟩ := List.mem_map.1 he
    exact Diagnostic.isNotBelow_warning hst.line_le

end

/-! ## Operators -/

/-- Of two beginnings of a text the longer one has at least as many line feeds. -/
theorem Text.count_le_of_byteSize_le {before before' rest rest' : Text}
    (htext : before ++ rest = before' ++ rest') (hsize : byteSize before ≤ byteSize before') :
    before.count '\n' ≤ before'.count '\n' := by
  rcases List.append_eq_append_iff.1 htext with ⟨more, rfl, -⟩ | ⟨more, rfl, -⟩
  · rw [List.count_append]
    exact Nat.le_add_right _ _
  · have hmore : byteSize more = 0 := by
      rw [byteSize_append] at hsize
      omega
    have hnil : more = [] := by
      by_contra hne
      have hpos := byteSize_pos hne
      omega
    rw [hnil, List.append_nil]

/-- The tokens of a tree begin one line after the other, or in the same line. -/
theorem Tree.pairwise_tokens (t : Tree) :
    (t.tokens .origin).Pairwise fun a b => a.span.start.line ≤ b.span.start.line := by
  obtain ⟨sites, hmap, hmem, hcovered⟩ := exists_isCovered_self t
  rw [← hmap, List.pairwise_map]
  refine hcovered.ordered.imp_of_mem fun {s s'} hs hs' hle => ?_
  obtain ⟨hin, hleaf⟩ := (hmem s).1 hs
  obtain ⟨hin', -⟩ := (hmem s').1 hs'
  have hsize : Text.byteSize s.before ≤ Text.byteSize s'.before :=
    Nat.le_trans (Nat.le_of_lt hleaf.startByte_lt) hle
  have htext := hin.text_eq.symm.trans hin'.text_eq
  rw [List.append_assoc, List.append_assoc] at htext
  have hcount := Text.count_le_of_byteSize_le htext hsize
  rw [hin.span_eq, hin'.span_eq, Span.cover, Span.cover, Text.advance_origin, Text.advance_origin]
  exact Nat.succ_le_succ hcount

theorem Spacing.exists_of_warning?_eq_some {m : Model} {rules : List SpacingRule} {t : Token}
    {d : Diagnostic} (h : warning? m rules t = some d) :
    ∃ message, d = .warning .spacesStyle message m.filename t.span.start.lineIndex := by
  rw [warning?] at h
  split at h
  · obtain ⟨r, -, rfl⟩ := Option.map_eq_some_iff.1 h
    exact ⟨_, rfl⟩
  · cases h

theorem Spacing.pairwise_check (rules : List SpacingRule) {m : Model}
    (h : m.tokens.Pairwise fun a b => a.span.start.line ≤ b.span.start.line) :
    (check rules m).Pairwise Diagnostic.IsNotBelow := by
  rw [check, List.pairwise_filterMap]
  refine h.imp fun hline d hd e he => ?_
  obtain ⟨_, rfl⟩ := exists_of_warning?_eq_some hd
  obtain ⟨_, rfl⟩ := exists_of_warning?_eq_some he
  exact Diagnostic.isNotBelow_warning (Nat.sub_le_sub_right hline 1)

/-! ## Empty lines -/

namespace EmptyLines

theorem pairwise_doubledFrom (i : Nat) (blank : List Bool) :
    (doubledFrom i blank).Pairwise (· < ·) := by
  fun_induction doubledFrom i blank with
  | case1 i a b rest hab ih =>
    refine List.pairwise_cons.2 ⟨fun j hj => ?_, ih⟩
    obtain ⟨k, rfl, -⟩ := getElem?_of_mem_doubledFrom hj
    omega
  | case2 i a b rest hab ih => exact ih
  | case3 => exact .nil

theorem pairwise_denseWindows (width : Nat) (blank : List Bool) :
    (denseWindows width blank).Pairwise (· < ·) := by
  rcases Nat.eq_zero_or_pos width with rfl | hwidth
  · exact .nil
  · rw [denseWindows_eq hwidth]
    exact List.pairwise_lt_range.filter _

/-- The warnings about a source are those with the one message and then those with the other, and in
both parts each line comes before the next one. -/
theorem exists_check_eq (width : Nat) (m : Model) : ∃ extra dense,
    check width m = extra ++ dense ∧
    (∀ d ∈ extra, d.message = extraMessage) ∧ (∀ d ∈ dense, d.message = denseMessage) ∧
    extra.Pairwise Diagnostic.IsAbove ∧ dense.Pairwise Diagnostic.IsAbove := by
  refine ⟨_, _, rfl, ?_, ?_, ?_, ?_⟩
  · intro d hd
    obtain ⟨_, -, rfl⟩ := List.mem_map.1 hd
    rfl
  · intro d hd
    obtain ⟨_, -, rfl⟩ := List.mem_map.1 hd
    rfl
  · rw [List.pairwise_map]
    exact (pairwise_doubledFrom 0 _).imp Diagnostic.isAbove_warning
  · rw [List.pairwise_map]
    exact (pairwise_denseWindows width _).imp Diagnostic.isAbove_warning

end EmptyLines

/-! ## All checks -/

/-- A diagnostic is one of the check that its checker carries out. -/
theorem Checker.check_eq_id {k : Checker} {m : Model} {d : Diagnostic} (hd : d ∈ k.check m) :
    d.check = k.id := by
  rw [k.check_eq] at hd
  obtain ⟨x, -, rfl⟩ := List.mem_map.1 hd
  rfl

namespace Linter

/-- The diagnostics of a check come from the checkers that carry it out. -/
theorem filter_lint_check (l : Linter) (m : Model) (c : Check) :
    (l.lint m).filter (·.check = c) =
      (l.checkers.filter (·.id = c)).flatMap (·.check m) := by
  rw [lint]
  induction l.checkers with
  | nil => rfl
  | cons k ks ih =>
    rw [List.flatMap_cons, List.filter_append, ih, List.filter_cons]
    by_cases hk : k.id = c
    · have hall : (k.check m).filter (·.check = c) = k.check m :=
        List.filter_eq_self.2 fun d hd => decide_eq_true ((Checker.check_eq_id hd).trans hk)
      rw [if_pos (decide_eq_true hk), List.flatMap_cons, hall]
    · have hnone : (k.check m).filter (·.check = c) = [] :=
        List.filter_eq_nil_iff.2 fun d hd => by
          rw [decide_eq_true_iff, Checker.check_eq_id hd]
          exact hk
      rw [if_neg (by simpa using hk), hnone, List.nil_append]

/-- A linter of some settings has at most one checker for a check. -/
theorem filter_checkers {s : Settings} {l : Linter} (h : ofSettings s = .ok l) (c : Check) :
    l.checkers.filter (·.id = c) = [] ∨
      ∃ k : Checker, k.id = c ∧ l.checkers.filter (·.id = c) = [k] := by
  have hids := map_id_checkers h c
  split at hids
  · obtain ⟨k, hk, hid⟩ := List.map_eq_singleton_iff.1 hids
    exact .inr ⟨k, hid, hk⟩
  · exact .inl (List.map_eq_nil_iff.1 hids)

/-- The diagnostics of each check about an accepted text come in the order of their lines. Those of
empty lines are in two parts, one for each message, and within each part no line comes twice. -/
theorem lint_ordered {text filename : Text} {m : Model} {s : Settings} {l : Linter}
    (hm : Model.ofText text filename = .ok m) (hl : ofSettings s = .ok l) :
    (∀ c, c ≠ .emptyLines →
      ((l.lint m).filter (·.check = c)).Pairwise Diagnostic.IsNotBelow) ∧
    ∃ extra dense, (l.lint m).filter (·.check = .emptyLines) = extra ++ dense ∧
      (∀ d ∈ extra, d.message = EmptyLines.extraMessage) ∧
      (∀ d ∈ dense, d.message = EmptyLines.denseMessage) ∧
      extra.Pairwise Diagnostic.IsAbove ∧ dense.Pairwise Diagnostic.IsAbove := by
  obtain ⟨t, -, -, rfl⟩ := Model.ofText_eq_ok_iff.1 hm
  have hprogram := Statement.pairwise_preorderAll _ (Model.isLaidOut_program t filename)
  constructor
  · intro c hc
    rw [filter_lint_check]
    rcases filter_checkers hl c with hnone | ⟨k, rfl, hk⟩
    · rw [hnone]
      exact .nil
    · rw [hk, List.flatMap_singleton]
      cases k with
      | semicolons => exact Semicolons.pairwise_check hprogram
      | emptyLines width => exact absurd rfl hc
      | spacing rules => exact Spacing.pairwise_check rules t.pairwise_tokens
      | naming rules => exact Naming.pairwise_check hprogram rules
  · rw [filter_lint_check]
    rcases filter_checkers hl .emptyLines with hnone | ⟨k, hid, hk⟩
    · refine ⟨[], [], ?_, by simp, by simp, .nil, .nil⟩
      rw [hnone]
      rfl
    · rw [hk, List.flatMap_singleton]
      cases k with
      | emptyLines width => exact EmptyLines.exists_check_eq width _
      | semicolons | spacing | naming => cases hid

/-- A block of two declarations with three empty lines between them. -/
def farApart : Text :=
  ['{', 'v', 'a', 'r', ' ', 'a', '=', '1', '\n', '\n', '\n', '\n',
    'v', 'a', 'r', ' ', 'b', '=', '2', '}']

/-- Each check finds two lines, the upper one first. -/
theorem lint_ordered_farApart : ∃ m l, Model.ofText farApart [] = .ok m ∧
    ofSettings strict = .ok l ∧
    (l.lint m).map (fun d => (d.check, d.oneBasedLine)) =
      [(.missingSemicolons, 1), (.missingSemicolons, 5), (.emptyLines, 3), (.emptyLines, 4),
        (.emptyLines, 1), (.spacesStyle, 1), (.spacesStyle, 5), (.correctNaming, 1),
        (.correctNaming, 5)] ∧
    (∀ c, c ≠ .emptyLines →
      ((l.lint m).filter (·.check = c)).Pairwise Diagnostic.IsNotBelow) ∧
    ∃ extra dense, (l.lint m).filter (·.check = .emptyLines) = extra ++ dense ∧
      (∀ d ∈ extra, d.message = EmptyLines.extraMessage) ∧
      (∀ d ∈ dense, d.message = EmptyLines.denseMessage) ∧
      extra.Pairwise Diagnostic.IsAbove ∧ dense.Pairwise Diagnostic.IsAbove :=
  ⟨_, _, rfl, rfl, by decide +kernel, @lint_ordered farApart [] _ strict _ rfl rfl⟩

end Linter

end ScriptStyle
