import ScriptStyle.Proofs.Semicolons

/-!
# Fields and the semicolons that end them

The semicolon that ends a field of a class stands behind the field, and blanks and comments may
stand between the two. The outline of a tree takes the semicolon for a part of the field if only
blanks stand before it. `Semicolons.check_fields` says what this means for every field of an
accepted text: the span of the field ends behind its semicolon if and only if there is no comment in
between, and only behind a comment is a semicolon overlooked.
-/

namespace ScriptStyle

open Position (origin)

namespace Tree

variable {gap rest : List Tree}

theorem isLeaf_iff {k : LeafKind} {t : Tree} : t.isLeaf k = true ↔ ∃ chars, t = leaf k chars := by
  cases t with
  | leaf k' chars =>
    rw [isLeaf, beq_iff_eq]
    constructor
    · rintro rfl
      exact ⟨chars, rfl⟩
    · rintro ⟨_, h⟩
      cases h
      rfl
  | missing spelling => simp [isLeaf]
  | node k' ts => simp [isLeaf]

theorem semicolonBehind?_of_blanks (hblank : ∀ t ∈ gap, t.isLeaf .blank) :
    semicolonBehind? (gap ++ leaf .punctuator [';'] :: rest) = some (textOf gap ++ [';']) := by
  induction gap with
  | nil => rfl
  | cons t gap ih =>
    obtain ⟨hhead, htail⟩ := List.forall_mem_cons.1 hblank
    obtain ⟨chars, rfl⟩ := isLeaf_iff.1 hhead
    rw [List.cons_append, semicolonBehind?, ih htail, Option.map_some, textOf_cons, text_leaf,
      List.append_assoc]

theorem semicolonBehind?_of_comment (htrivia : ∀ t ∈ gap, t.isTrivia)
    (hcomment : ¬ ∀ t ∈ gap, t.isLeaf .blank) : semicolonBehind? (gap ++ rest) = none := by
  induction gap with
  | nil => exact absurd (by simp) hcomment
  | cons t gap ih =>
    obtain ⟨hhead, htail⟩ := List.forall_mem_cons.1 htrivia
    rw [isTrivia, Bool.or_eq_true] at hhead
    rcases hhead with hblank | hother
    · have hrest : ¬ ∀ t ∈ gap, t.isLeaf .blank :=
        fun h => hcomment (List.forall_mem_cons.2 ⟨hblank, h⟩)
      obtain ⟨chars, rfl⟩ := isLeaf_iff.1 hblank
      rw [List.cons_append, semicolonBehind?, ih htail hrest, Option.map_none]
    · obtain ⟨chars, rfl⟩ := isLeaf_iff.1 hother
      rfl

end Tree

namespace Site

variable {s : Site} {gap : List Tree}

/-- A semicolon ends the node, and nothing but blanks and comments stands between them. -/
structure IsEndedBehind (s : Site) (gap : List Tree) : Prop where
  /-- What stands between them. -/
  trivia : ∀ t ∈ gap, t.isTrivia
  /-- The semicolon follows. -/
  semicolon : ∃ rest, s.behind = gap ++ .leaf .punctuator [';'] :: rest

/-- The place behind the semicolon that follows a node and what stands between them. -/
def placeBehind (s : Site) (gap : List Tree) : Position :=
  origin.advance (s.before ++ Tree.textOf s.parts ++ (Tree.textOf gap ++ [';']))

/-- The source text of a field ends with its semicolon if only blanks stand before that. -/
theorem text_of_blanks (hkind : s.kind = .fieldDefinition) (hend : s.IsEndedBehind gap)
    (hblank : ∀ t ∈ gap, t.isLeaf .blank) :
    s.text = Tree.textOf s.parts ++ (Tree.textOf gap ++ [';']) := by
  obtain ⟨rest, hrest⟩ := hend.semicolon
  rw [text, if_pos hkind, hrest, Tree.semicolonBehind?_of_blanks hblank]
  rfl

/-- The source text of a field ends with the field if its semicolon stands behind a comment. -/
theorem text_of_comment (hkind : s.kind = .fieldDefinition) (hend : s.IsEndedBehind gap)
    (hcomment : ¬ ∀ t ∈ gap, t.isLeaf .blank) : s.text = Tree.textOf s.parts := by
  obtain ⟨rest, hrest⟩ := hend.semicolon
  rw [text, if_pos hkind, hrest, Tree.semicolonBehind?_of_comment hend.trivia hcomment]
  exact List.append_nil _

/-- The span of a field ends behind its semicolon if and only if no comment stands in between. -/
theorem stop_span_eq_iff (hkind : s.kind = .fieldDefinition) (hend : s.IsEndedBehind gap) :
    s.span.stop = s.placeBehind gap ↔ ∀ t ∈ gap, t.isLeaf .blank := by
  constructor
  · intro hstop
    by_contra hcomment
    have hlater := Position.not_advance_le (origin.advance (s.before ++ Tree.textOf s.parts))
      (List.append_ne_nil_of_right_ne_nil (Tree.textOf gap) (List.cons_ne_nil ';' []))
    rw [← Position.advance_append, ← placeBehind, ← hstop, span,
      text_of_comment hkind hend hcomment, Position.le_refl] at hlater
    cases hlater
  · intro hblank
    rw [span, text_of_blanks hkind hend hblank, placeBehind, List.append_assoc]

end Site

namespace Statement

/-- A field of a class. -/
def isField : Statement → Bool
  | simple .field _ => true
  | _ => false

end Statement

/-- Fields come from the nodes of fields. -/
theorem Site.Makes.isField_iff {s : Site} {st : Statement} (h : s.Makes st) :
    s.kind = .fieldDefinition ↔ st.isField = true := by
  rcases s with ⟨before, kind, parts, behind⟩
  cases st with
  | simple k span =>
    obtain ⟨hkind, -⟩ := h
    constructor
    · rintro rfl
      cases hkind
      rfl
    · intro hfield
      obtain rfl : k = .field := by
        cases k <;> first | rfl | cases hfield
      cases kind <;> first | rfl | cases hkind
  | compound k span body =>
    obtain ⟨hkind, -⟩ := h
    constructor
    · rintro rfl
      cases hkind
    · intro hfield
      cases hfield

namespace Semicolons

variable {m : Model} {s : Site}

/-- What the check decides for a field whose semicolon follows. -/
theorem isMissing_field {gap : List Tree} {st : Statement} {rest : Text} (hmakes : s.Makes st)
    (hfield : st.isField = true) (hm : m.text = s.before ++ s.text ++ rest)
    (hend : s.IsEndedBehind gap) :
    isMissing m st = true ↔ ¬ (∀ t ∈ gap, t.isLeaf .blank) ∧
      (Text.byteBefore? (s.before ++ Tree.textOf s.parts)).any (· != semicolon) = true := by
  have hkind := hmakes.isField_iff.2 hfield
  have hlast : isMissing m st = (Text.byteBefore? (s.before ++ s.text)).any (· != semicolon) := by
    cases st with
    | simple k span => rw [isMissing, hmakes.2, lastByte?, Site.span, Model.byteBefore?_advance hm]
    | compound k span body => cases hfield
  rw [hlast]
  by_cases hblank : ∀ t ∈ gap, t.isLeaf .blank
  · have hnone : (Text.byteBefore? (s.before ++ s.text)).any (· != semicolon) = false := by
      rw [Site.text_of_blanks hkind hend hblank, ← List.append_assoc, ← List.append_assoc,
        Text.byteBefore?_concat (by decide)]
      rfl
    rw [hnone]
    constructor
    · rintro ⟨⟩
    · rintro ⟨hcomment, -⟩
      exact absurd hblank hcomment
  · rw [Site.text_of_comment hkind hend hblank]
    exact ⟨fun h => ⟨hblank, h⟩, And.right⟩

/-- The fields of an accepted text come from its nodes of fields, in their order. If a semicolon
ends such a node, the span of the field ends behind it if and only if no comment stands in between;
and the check reports the field if and only if there is such a comment and the field does not end
with a semicolon of its own. -/
theorem check_fields {text filename : Text} (hm : Model.ofText text filename = .ok m) :
    ∃ sites : List Site,
      (∀ s ∈ sites, s.IsIn (Tree.ofText text) ∧ s.kind = .fieldDefinition) ∧
      List.Forall₂ (fun s st => s.Makes st ∧ ∀ gap, s.IsEndedBehind gap →
          (st.span.stop = s.placeBehind gap ↔ ∀ t ∈ gap, t.isLeaf .blank) ∧
          (isMissing m st = true ↔ ¬ (∀ t ∈ gap, t.isLeaf .blank) ∧
            (Text.byteBefore? (s.before ++ Tree.textOf s.parts)).any (· != semicolon) = true))
        sites ((Statement.preorderAll m.program).filter (·.isField)) := by
  obtain ⟨t, ht, -, rfl⟩ := Model.ofText_eq_ok_iff.1 hm
  have htree : Tree.ofText text = t := by
    rw [Tree.ofText, ht]
  rw [htree]
  obtain ⟨sites, hin, hmakes⟩ := Tree.exists_sites t
  have hfields : List.Forall₂ Site.Makes (sites.filter (·.kind = .fieldDefinition))
      ((Statement.preorderAll (Model.ofTree t filename).program).filter (·.isField)) := by
    refine List.rel_filter ?_ hmakes
    intro s st h
    exact decide_eq_true_iff.trans h.isField_iff
  have hsites : ∀ s ∈ sites.filter (·.kind = .fieldDefinition),
      s.IsIn t ∧ s.kind = .fieldDefinition := by
    intro s hs
    obtain ⟨hs, hkind⟩ := List.mem_filter.1 hs
    exact ⟨hin s hs, of_decide_eq_true hkind⟩
  refine ⟨_, hsites, ((List.forall₂_and_left _ _).2 ⟨hsites, hfields⟩).imp ?_⟩
  rintro s st ⟨⟨hs, hkind⟩, hst⟩
  refine ⟨hst, ?_⟩
  intro gap hend
  obtain ⟨rest, hrest⟩ := s.text_of_isIn hs
  have hspan : st.span = s.span := by
    cases st <;> exact hst.2
  rw [hspan]
  exact ⟨Site.stop_span_eq_iff hkind hend,
    isMissing_field hst (hst.isField_iff.1 hkind) (m := Model.ofTree t filename) hrest hend⟩

/-- A class with two fields. A comment stands before the semicolon of the second. -/
def twoFields : Text :=
  ['c', 'l', 'a', 's', 's', ' ', 'A', ' ', '{', 'w', ' ', ';', 'x', ' ', '/', '*', '*', '/', ';',
    '}']

/-- Of the two fields the second is reported. -/
theorem check_fields_twoFields : ∃ m, Model.ofText twoFields [] = .ok m ∧
    (Statement.preorderAll m.program).filter (·.isField) =
      [.simple .field ⟨⟨1, 9⟩, ⟨1, 12⟩⟩, .simple .field ⟨⟨1, 12⟩, ⟨1, 13⟩⟩] ∧
    ∃ sites : List Site,
      (∀ s ∈ sites, s.IsIn (Tree.ofText twoFields) ∧ s.kind = .fieldDefinition) ∧
      List.Forall₂ (fun s st => s.Makes st ∧ ∀ gap, s.IsEndedBehind gap →
          (st.span.stop = s.placeBehind gap ↔ ∀ t ∈ gap, t.isLeaf .blank) ∧
          (isMissing m st = true ↔ ¬ (∀ t ∈ gap, t.isLeaf .blank) ∧
            (Text.byteBefore? (s.before ++ Tree.textOf s.parts)).any (· != semicolon) = true))
        sites ((Statement.preorderAll m.program).filter (·.isField)) :=
  ⟨_, rfl, rfl, check_fields rfl⟩

/-- A class with one field and a comment before its semicolon. -/
def commentedField : Text :=
  ['c', 'l', 'a', 's', 's', ' ', 'A', ' ', '{', ' ', 'x', ' ', '/', '*', '*', '/', ';', ' ', '}']

/-- The node of the field. -/
def commentedFieldSite : Site where
  before := ['c', 'l', 'a', 's', 's', ' ', 'A', ' ', '{', ' ']
  kind := .fieldDefinition
  parts := [.leaf .property ['x']]
  behind := [.leaf .blank [' '], .leaf .comment ['/', '*', '*', '/'], .leaf .punctuator [';'],
    .leaf .blank [' '], .leaf .punctuator ['}']]

/-- What stands between the field and its semicolon. -/
def commentedFieldGap : List Tree := [.leaf .blank [' '], .leaf .comment ['/', '*', '*', '/']]

theorem isIn_commentedField : commentedFieldSite.IsIn (Tree.ofText commentedField) :=
  .inside .program [] <| .inside .classDeclaration [] <|
    .later (.leaf .keyword ['c', 'l', 'a', 's', 's']) <| .later (.leaf .blank [' ']) <|
    .later (.leaf .name ['A']) <| .later (.leaf .blank [' ']) <| .inside .classBody [] <|
    .later (.leaf .punctuator ['{']) <| .later (.leaf .blank [' ']) <| .here _ _

/-- The span of the field ends before its semicolon, and the field is reported although the
semicolon is there. -/
theorem fields_commentedField : ∃ m, Model.ofText commentedField [] = .ok m ∧
    commentedFieldSite.IsIn (Tree.ofText commentedField) ∧
    commentedFieldSite.kind = .fieldDefinition ∧
    commentedFieldSite.IsEndedBehind commentedFieldGap ∧
    commentedFieldSite.placeBehind commentedFieldGap = ⟨1, 17⟩ ∧
    (Statement.preorderAll m.program).filter (·.isField) =
      [.simple .field ⟨⟨1, 10⟩, ⟨1, 11⟩⟩] ∧
    check m = [.warning .missingSemicolons message [] 1] :=
  ⟨_, rfl, isIn_commentedField, rfl, ⟨by decide, _, rfl⟩, by decide, rfl, rfl⟩

end Semicolons

end ScriptStyle
