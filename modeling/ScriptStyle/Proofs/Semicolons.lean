import ScriptStyle.Lint.Semicolons
import ScriptStyle.Proofs.Acceptance
import ScriptStyle.Proofs.Sites

/-!
# Missing semicolons and the source text

The check reads one byte of the text, at a place that it computes from the span of a statement. For
a model that comes from a text the place is known: the span covers the source text of the node that
the statement comes from, so the byte is the last byte of this source text.

What the grammar lets stand at the end of a statement is not looked at here. It is assumed that no
statement without a body is empty or ends with a line feed.
-/

namespace ScriptStyle

/-- The source text of a node is not empty and does not end with a line feed. -/
structure Site.EndsInLine (s : Site) : Prop where
  /-- There is a last character. -/
  ne_nil : s.text ≠ []
  /-- It is no line feed. -/
  getLast_ne : s.text.getLast? ≠ some '\n'

/-- Every node that is a statement without a body ends in its last line. -/
def Tree.LeavesEndInLine (t : Tree) : Prop :=
  ∀ s : Site, s.IsIn t → s.simpleKind?.isSome → s.EndsInLine

namespace Semicolons

open Text (bytes)

variable {m : Model} {s : Site} {sites : List Site} {ss : List Statement}

/-- The source text of a node does not end with a semicolon. -/
def isUnterminated (s : Site) : Bool := (bytes s.text).getLast? != some semicolon

/-- The warning that is due for a node. -/
def warningAt (filename : Text) (s : Site) : Diagnostic :=
  .warning .missingSemicolons message filename (s.before.count '\n' + 1)

/-- The byte that the check reads is the last byte of the source text. -/
theorem lastByte?_span {rest : Text} (hm : m.text = s.before ++ s.text ++ rest)
    (hend : s.EndsInLine) : lastByte? m s.span = (bytes s.text).getLast? := by
  rw [lastByte?, Site.span, Model.byteBefore?_advance hm,
    Text.byteBefore?_append _ hend.ne_nil hend.getLast_ne]

/-- What the check decides for a statement without a body. -/
theorem isMissing_simple {kind : SimpleKind} {span : Span} {rest : Text}
    (hmakes : s.Makes (.simple kind span)) (hm : m.text = s.before ++ s.text ++ rest)
    (hend : s.EndsInLine) :
    isMissing m (.simple kind span) = isUnterminated s := by
  obtain ⟨-, rfl⟩ := hmakes
  have hsome : (bytes s.text).getLast? ≠ none := by
    rw [Ne, List.getLast?_eq_none_iff, Text.bytes_eq_nil]
    exact hend.ne_nil
  obtain ⟨b, hb⟩ := Option.ne_none_iff_exists'.1 hsome
  simp [isMissing, isUnterminated, lastByte?_span hm hend, hb, bne]

/-- The warnings about statements that come from some nodes are the warnings that are due for those
of the nodes that make statements without a body. -/
theorem exists_leaves (hmakes : List.Forall₂ Site.Makes sites ss)
    (htext : ∀ s ∈ sites, ∃ rest, m.text = s.before ++ s.text ++ rest)
    (hend : ∀ s ∈ sites, s.simpleKind?.isSome → s.EndsInLine) :
    ∃ leaves, leaves.Sublist sites ∧
      List.Forall₂ Site.Makes leaves (ss.filter (·.body?.isNone)) ∧
      (ss.filter (isMissing m)).map (fun st => Diagnostic.warning .missingSemicolons message
        m.filename st.span.start.line) =
        (leaves.filter isUnterminated).map (warningAt m.filename) := by
  induction hmakes with
  | nil => exact ⟨[], List.Sublist.refl _, .nil, rfl⟩
  | @cons s st sites ss hst _ ih =>
    obtain ⟨leaves, hsub, hleaves, hcheck⟩ :=
      ih (fun s hs => htext s (List.mem_cons_of_mem _ hs))
        (fun s hs => hend s (List.mem_cons_of_mem _ hs))
    cases st with
    | compound kind span body => exact ⟨leaves, hsub.cons _, hleaves, hcheck⟩
    | simple kind span =>
      obtain ⟨rest, hrest⟩ := htext s List.mem_cons_self
      have hends : s.EndsInLine := hend s List.mem_cons_self (by rw [hst.1]; rfl)
      have hline : span.start.line = s.before.count '\n' + 1 := by
        rw [hst.2, Site.span, Site.start, Text.advance_origin]
      refine ⟨s :: leaves, hsub.cons_cons _, .cons hst hleaves, ?_⟩
      rw [List.filter_cons, List.filter_cons, isMissing_simple hst hrest hends]
      split
      · rw [List.map_cons, List.map_cons, hcheck, warningAt, ← hline, Statement.span]
      · exact hcheck

/-- Of an accepted text the check reports the statements without a body whose source text does not
end with a semicolon, in the order of the statements, each in the line where its source text
begins. -/
theorem check_unterminated {text filename : Text} (hm : Model.ofText text filename = .ok m)
    (hend : (Tree.ofText text).LeavesEndInLine) :
    ∃ leaves : List Site,
      (∀ s ∈ leaves, s.IsIn (Tree.ofText text) ∧ ∃ rest, text = s.before ++ s.text ++ rest) ∧
      List.Forall₂ Site.Makes leaves
        ((Statement.preorderAll m.program).filter (·.body?.isNone)) ∧
      check m = (leaves.filter isUnterminated).map (warningAt filename) := by
  obtain ⟨t, ht, -, rfl⟩ := Model.ofText_eq_ok_iff.1 hm
  have htree : Tree.ofText text = t := by
    rw [Tree.ofText, ht]
  rw [htree] at hend ⊢
  have htext {s : Site} (hs : s.IsIn t) : ∃ rest, text = s.before ++ s.text ++ rest := by
    rw [← Tree.text_of_parse? ht]
    exact s.text_of_isIn hs
  obtain ⟨sites, hin, hmakes⟩ := Tree.exists_sites t
  obtain ⟨leaves, hsub, hleaves, hcheck⟩ :=
    exists_leaves (m := Model.ofTree t filename) hmakes
      (fun s hs => s.text_of_isIn (hin s hs)) (fun s hs => hend s (hin s hs))
  refine ⟨leaves, ?_, hleaves, hcheck⟩
  intro s hs
  have hs := hin s (hsub.subset hs)
  exact ⟨hs, htext hs⟩

/-- Of two statements the first lacks its semicolon. -/
theorem check_unterminated_two : ∃ m,
    Model.ofText ['a', '\n', 'b', ';'] [] = .ok m ∧
    (Tree.ofText ['a', '\n', 'b', ';']).LeavesEndInLine ∧
    check m = [.warning .missingSemicolons message [] 1] ∧
    ∃ leaves : List Site,
      (∀ s ∈ leaves, s.IsIn (Tree.ofText ['a', '\n', 'b', ';']) ∧
        ∃ rest, ['a', '\n', 'b', ';'] = s.before ++ s.text ++ rest) ∧
      List.Forall₂ Site.Makes leaves
        ((Statement.preorderAll m.program).filter (·.body?.isNone)) ∧
      check m = (leaves.filter isUnterminated).map (warningAt []) := by
  have htree : Tree.ofText ['a', '\n', 'b', ';'] = .node .program [
      .node .expressionStatement [.leaf .name ['a']], .leaf .blank ['\n'],
      .node .expressionStatement [.leaf .name ['b'], .leaf .punctuator [';']]] := rfl
  have hend : (Tree.ofText ['a', '\n', 'b', ';']).LeavesEndInLine := by
    rintro ⟨before, kind, parts, behind⟩ hin hsimple
    rw [htree, Site.IsIn] at hin
    rcases hin with _ | ⟨_, ⟨⟩⟩ | ⟨_, _, _ | ⟨_, h⟩ | ⟨_, _, h⟩⟩
    · cases hsimple
    · exact ⟨by decide, by decide⟩
    · rcases h with _ | ⟨_, _ | ⟨_, ⟨⟩⟩ | ⟨_, _, h⟩⟩
      · exact ⟨by decide, by decide⟩
      · rcases h with _ | ⟨_, _ | ⟨_, ⟨⟩⟩⟩
    · rcases h with _ | ⟨_, ⟨⟩⟩
  exact ⟨_, rfl, hend, rfl, check_unterminated rfl hend⟩

end Semicolons

end ScriptStyle
