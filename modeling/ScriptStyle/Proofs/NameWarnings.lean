import ScriptStyle.Proofs.Variables

/-!
# The warnings about names, statement by statement

The check of names lists all statements, each before those in its body, and looks at one after the
other. `Naming.Reports` says without such a list what a statement is reported for, by one rule for
each kind of statement: its own warnings, then those of the statements in its body. A name is
reported if there is a pattern for its kind that does not accept it, and all warnings of a statement
are about the line where the statement begins.

`Naming.check_reports` says that the relation describes the check and nothing else. It also counts
the warnings about the word `var`: there are as many as declarations by this word, whatever the
patterns are, because no warning about a name says what they say (`Naming.count_messages`).
-/

namespace ScriptStyle

namespace Naming

variable (r : NameRules) (filename : Text)

/-- Some names of a kind, bound by a statement that begins in a line, give some warnings. -/
inductive NamesReport (k : NameKind) (line : Nat) : List Identifier → List Diagnostic → Prop where
  | nil : NamesReport k line [] []
  /-- A name that no pattern for its kind refuses. -/
  | admitted {i : Identifier} {is : List Identifier} {ds : List Diagnostic}
      (h : ∀ p, r.pattern? k = some p → p.accepts i.name = true)
      (rest : NamesReport k line is ds) : NamesReport k line (i :: is) ds
  /-- A name that the pattern for its kind refuses. -/
  | refused {i : Identifier} {is : List Identifier} {ds : List Diagnostic} {p : NamePattern}
      (hp : r.pattern? k = some p) (h : p.accepts i.name = false)
      (rest : NamesReport k line is ds) :
      NamesReport k line (i :: is)
        (.warning .correctNaming (nameMessage k i.name p) filename line :: ds)

mutual

/-- A statement gives some warnings: its own, and behind them those of the statements in its
body. -/
inductive Reports : Statement → List Diagnostic → Prop where
  | var {names : List Identifier} {s : Span} {ds : List Diagnostic}
      (h : NamesReport r filename .variableName s.start.line names ds) :
      Reports (.simple (.declaration .var names) s)
        (.warning .correctNaming varMessage filename s.start.line :: ds)
  | let_ {names : List Identifier} {s : Span} {ds : List Diagnostic}
      (h : NamesReport r filename .variableName s.start.line names ds) :
      Reports (.simple (.declaration .let_ names) s) ds
  | const {names : List Identifier} {s : Span} {ds : List Diagnostic}
      (h : NamesReport r filename .constantName s.start.line names ds) :
      Reports (.simple (.declaration .const names) s) ds
  /-- Any other statement without a body. -/
  | silent {kind : SimpleKind} {s : Span} (h : ∀ word names, kind ≠ .declaration word names) :
      Reports (.simple kind s) []
  | function {name : Option Identifier} {s : Span} {body : List Statement}
      {ds es : List Diagnostic}
      (h : NamesReport r filename .functionName s.start.line name.toList ds)
      (hbody : ReportsAll body es) : Reports (.compound (.function name) s body) (ds ++ es)
  | classBody {name : Option Identifier} {s : Span} {body : List Statement}
      {ds es : List Diagnostic}
      (h : NamesReport r filename .className s.start.line name.toList ds)
      (hbody : ReportsAll body es) : Reports (.compound (.classBody name) s body) (ds ++ es)
  /-- Any other statement with a body. -/
  | passed {kind : CompoundKind} {s : Span} {body : List Statement} {es : List Diagnostic}
      (h : ∀ name, kind ≠ .function name ∧ kind ≠ .classBody name) (hbody : ReportsAll body es) :
      Reports (.compound kind s body) es

/-- Statements that follow one another give some warnings, one statement after the other. -/
inductive ReportsAll : List Statement → List Diagnostic → Prop where
  | nil : ReportsAll [] []
  | cons {s : Statement} {ss : List Statement} {ds es : List Diagnostic} (h : Reports s ds)
      (hs : ReportsAll ss es) : ReportsAll (s :: ss) (ds ++ es)

end

variable {r filename}

theorem nameMessages_of_admitted {k : NameKind} {i : Identifier}
    (h : ∀ p, r.pattern? k = some p → p.accepts i.name = true) : nameMessages r k i = [] := by
  rw [nameMessages]
  cases hp : r.pattern? k with
  | none => rfl
  | some p => exact if_pos (h p hp)

theorem nameMessages_of_refused {k : NameKind} {i : Identifier} {p : NamePattern}
    (hp : r.pattern? k = some p) (h : p.accepts i.name = false) :
    nameMessages r k i = [nameMessage k i.name p] := by
  rw [nameMessages, hp]
  exact if_neg (by rw [h]; exact Bool.false_ne_true)

/-- What the check says about some names is what they give. -/
theorem namesReport_iff (k : NameKind) (line : Nat) (is : List Identifier) (ds : List Diagnostic) :
    NamesReport r filename k line is ds ↔
      ds = (is.flatMap (nameMessages r k)).map (.warning .correctNaming · filename line) := by
  induction is generalizing ds with
  | nil =>
    constructor
    · rintro ⟨⟩
      rfl
    · rintro rfl
      exact .nil
  | cons i is ih =>
    rw [List.flatMap_cons, List.map_append]
    constructor
    · intro h
      cases h with
      | admitted h rest =>
        rw [nameMessages_of_admitted h, (ih _).1 rest]
        rfl
      | refused hp h rest =>
        rw [nameMessages_of_refused hp h, (ih _).1 rest]
        rfl
    · rintro rfl
      by_cases h : ∀ p, r.pattern? k = some p → p.accepts i.name = true
      · rw [nameMessages_of_admitted h]
        exact .admitted h ((ih _).2 rfl)
      · obtain ⟨p, hp, h⟩ : ∃ p, r.pattern? k = some p ∧ p.accepts i.name = false := by
          simpa using h
        rw [nameMessages_of_refused hp h]
        exact .refused hp h ((ih _).2 rfl)

/-- The warnings about a statement, whatever stands in its body. -/
def warnings (r : NameRules) (filename : Text) (s : Statement) : List Diagnostic :=
  (messages r s).map (.warning .correctNaming · filename s.span.start.line)

theorem warnings_declaration (word : DeclarationKind) (names : List Identifier) (s : Span) :
    warnings r filename (.simple (.declaration word names) s) =
      (if word = .var then [.warning .correctNaming varMessage filename s.start.line] else []) ++
        (names.flatMap (nameMessages r (.ofDeclaration word))).map
          (.warning .correctNaming · filename s.start.line) := by
  rw [warnings, messages, List.map_append]
  split <;> rfl

mutual

theorem reports_iff : ∀ (s : Statement) (ds : List Diagnostic),
    Reports r filename s ds ↔ ds = s.preorder.flatMap (warnings r filename)
  | .simple kind s, ds => by
    rw [Statement.preorder_simple, List.flatMap_singleton]
    cases kind with
    | declaration word names =>
      rw [warnings_declaration]
      constructor
      · intro h
        cases h with
        | var h => rw [(namesReport_iff ..).1 h]; rfl
        | let_ h => rw [(namesReport_iff ..).1 h]; rfl
        | const h => rw [(namesReport_iff ..).1 h]; rfl
        | silent h => exact absurd rfl (h word names)
      · rintro rfl
        cases word with
        | var => exact .var ((namesReport_iff ..).2 rfl)
        | let_ => exact .let_ ((namesReport_iff ..).2 rfl)
        | const => exact .const ((namesReport_iff ..).2 rfl)
    | _ =>
      constructor
      · rintro ⟨⟩
        rfl
      · rintro rfl
        exact .silent (by rintro word names ⟨⟩)
  | .compound kind s body, ds => by
    have ih := reportsAll_iff body
    rw [Statement.preorder_compound, List.flatMap_cons]
    cases kind with
    | function name =>
      constructor
      · intro h
        cases h with
        | function h hbody => rw [(namesReport_iff ..).1 h, (ih _).1 hbody]; rfl
        | passed h => exact absurd rfl (h name).1
      · rintro rfl
        exact .function ((namesReport_iff ..).2 rfl) ((ih _).2 rfl)
    | classBody name =>
      constructor
      · intro h
        cases h with
        | classBody h hbody => rw [(namesReport_iff ..).1 h, (ih _).1 hbody]; rfl
        | passed h => exact absurd rfl (h name).2
      · rintro rfl
        exact .classBody ((namesReport_iff ..).2 rfl) ((ih _).2 rfl)
    | _ =>
      constructor
      · intro h
        cases h with
        | passed _ hbody => exact (ih _).1 hbody
      · rintro rfl
        exact .passed (fun name => ⟨by rintro ⟨⟩, by rintro ⟨⟩⟩) ((ih _).2 rfl)

theorem reportsAll_iff : ∀ (ss : List Statement) (ds : List Diagnostic),
    ReportsAll r filename ss ds ↔
      ds = (Statement.preorderAll ss).flatMap (warnings r filename)
  | [], ds => by
    constructor
    · rintro ⟨⟩
      rfl
    · rintro rfl
      exact .nil
  | s :: ss, ds => by
    rw [Statement.preorderAll_cons, List.flatMap_append]
    constructor
    · intro h
      cases h with
      | cons h hs => rw [(reports_iff s _).1 h, (reportsAll_iff ss _).1 hs]
    · rintro rfl
      exact .cons ((reports_iff s _).2 rfl) ((reportsAll_iff ss _).2 rfl)

end

/-- The warnings about the word `var` among those about a statement. -/
theorem countP_warnings (s : Statement) :
    (warnings r filename s).countP (·.message = varMessage) = if s.isVar then 1 else 0 := by
  have hmessages := congrArg List.length (filter_messages r s)
  rw [warnings, List.countP_map, List.countP_eq_length_filter]
  refine hmessages.trans ?_
  cases s.isVar <;> rfl

/-- The check gives the warnings that the statements of a source give, and no other ones. As many of
them are about the word `var` as there are declarations by this word. -/
theorem check_reports (r : NameRules) (m : Model) :
    (∀ ds, ReportsAll r m.filename m.program ds ↔ ds = check r m) ∧
      (check r m).countP (·.message = varMessage) =
        (Statement.preorderAll m.program).countP (·.isVar) := by
  have hcheck : check r m =
      (Statement.preorderAll m.program).flatMap (warnings r m.filename) := rfl
  rw [hcheck]
  refine ⟨reportsAll_iff m.program, ?_⟩
  induction Statement.preorderAll m.program with
  | nil => rfl
  | cons s ss ih =>
    rw [List.flatMap_cons, List.countP_append, ih, countP_warnings, List.countP_cons,
      Nat.add_comm]

end Naming

end ScriptStyle
