import ScriptStyle.Source.Read
import ScriptStyle.Proofs.Sites

/-!
# The nodes that are statements

A `Spot` is a node of a tree together with the kinds of the nodes around it, and `Tree.spots` lists
all nodes of a tree, each once and before those inside of it. Which of them are statements is said
here by looking upwards: each node around a statement must be one that has statements inside, at a
place where the next one may stand. Nothing that stands in an expression passes this test, because no
node of an expression has statements inside.

`Model.forall₂_statements` says that the outline of a program finds exactly these nodes: its
statements, each before those in its body, are the statements among the nodes in the order of the
nodes, one each and of the same type. A block that is a body and an export of a declaration are no
statements here; what they hold is.
-/

namespace ScriptStyle

open Tree (Place)

/-! ## Where statements stand -/

/-- Where the parts of a node stand that has statements inside: in a list of statements, in a body or
a branch, among the cases of a switch, among the members of a class, or below the word `export`. -/
def NodeKind.inside? : NodeKind → Option Place
  | program | block | switchCase => some .list
  | functionDeclaration | function | methodDefinition | staticBlock
  | ifStatement | elseClause | forStatement | forInStatement | whileStatement | doStatement
  | withStatement | labeledStatement | tryStatement | catchClause | finallyClause => some .branch
  | switchStatement | switchBody => some .cases
  | classDeclaration | classExpression | classBody => some .members
  | exportStatement => some .exported
  | _ => none

namespace Tree.Place

/-- The nodes at a place that are statements. Below the word `export` these are declarations, and
functions and classes without a name, which count as such. -/
def hasStatement : Place → NodeKind → Bool
  | list, k => k.isStatement
  | branch, k => k.isStatement && k != .block
  | cases, _ => false
  | members, k => k = .methodDefinition || k = .fieldDefinition || k = .staticBlock
  | exported, k => k = .varDeclaration || k = .lexicalDeclaration || k = .functionDeclaration ||
      k = .classDeclaration || k = .function || k = .classExpression

/-- The nodes at a place that are no statements but lend the statements inside of them: the block of
a body, the clauses of a statement, and what is around cases and members. -/
def hasPassage : Place → NodeKind → Bool
  | list, _ => false
  | branch, k => k = .block || k = .elseClause || k = .catchClause || k = .finallyClause
  | cases, k => k = .switchBody || k = .switchCase
  | members, k => k = .classBody
  | exported, _ => false

end Tree.Place

namespace NodeKind

/-- Among the parts of a node of kind `k` a node of kind `l` is a statement, or lends some. -/
def leadsTo (k l : NodeKind) : Bool :=
  k.inside?.any fun place => place.hasStatement l || place.hasPassage l

/-- The name of the type of the statement that a node is. -/
def typeName? : NodeKind → Option String
  | varDeclaration | lexicalDeclaration => some "VariableDeclaration"
  | functionDeclaration | function => some "FunctionDeclaration"
  | classDeclaration | classExpression => some "ClassDeclaration"
  | methodDefinition => some "MethodDefinition"
  | staticBlock => some "StaticBlock"
  | fieldDefinition => some "PropertyDefinition"
  | block => some "BlockStatement"
  | ifStatement => some "IfStatement"
  | forStatement => some "ForStatement"
  | forInStatement => some "ForInStatement"
  | whileStatement => some "WhileStatement"
  | doStatement => some "DoWhileStatement"
  | tryStatement => some "TryStatement"
  | switchStatement => some "SwitchStatement"
  | withStatement => some "WithStatement"
  | labeledStatement => some "LabeledStatement"
  | expressionStatement => some "ExpressionStatement"
  | returnStatement => some "ReturnStatement"
  | throwStatement => some "ThrowStatement"
  | breakStatement => some "BreakStatement"
  | continueStatement => some "ContinueStatement"
  | importStatement => some "ImportDeclaration"
  | exportStatement => some "ExportDeclaration"
  | debuggerStatement => some "DebuggerStatement"
  | emptyStatement => some "EmptyStatement"
  | _ => none

end NodeKind

/-- A node of a tree and what it stands in. -/
structure Spot where
  /-- The node. -/
  site : Site
  /-- The kinds of the nodes around it, the innermost first. -/
  around : List NodeKind

namespace Spot

/-- Each of some nodes, the innermost first, leads to the one before it, and the first one to a node
of kind `k`. -/
def leadTo (k : NodeKind) : List NodeKind → Bool
  | [] => true
  | l :: around => l.leadsTo k && leadTo l around

/-- The node is an export and leads to a declaration. -/
def wraps (s : Spot) : Bool :=
  s.site.kind = .exportStatement &&
    s.site.parts.any fun t => t.kind?.any NodeKind.exportStatement.leadsTo

/-- The node is a statement: the nodes around it lead to it, and it does not only lend the
statements inside of it. -/
def isStatement (s : Spot) : Bool :=
  leadTo s.site.kind s.around &&
    (s.around.head?.bind NodeKind.inside?).any (·.hasStatement s.site.kind) && !s.wraps

/-- A statement is the one that the node is: it has its type, its names and its source text. -/
structure Makes (s : Spot) (st : Statement) : Prop where
  /-- The type is that of the node. -/
  typeName_eq : s.site.kind.typeName? = some st.typeName
  /-- The names are those of the node, and the span covers its source text. -/
  makes : s.site.Makes st

end Spot

namespace Tree

mutual

/-- The nodes of a tree, each before those inside of it. The text `before` comes before the tree, the
trees `behind` follow it, and it stands in nodes of the kinds `around`. -/
def spots (around : List NodeKind) (before : Text) (behind : List Tree) : Tree → List Spot
  | leaf _ _ => []
  | missing _ => []
  | node k ts => ⟨⟨before, k, ts, behind⟩, around⟩ :: spotsAll (k :: around) before ts

/-- The nodes of trees that follow one another. -/
def spotsAll (around : List NodeKind) (before : Text) : List Tree → List Spot
  | [] => []
  | t :: ts => spots around before ts t ++ spotsAll around (before ++ t.text) ts

end

/-- All nodes of a tree that begins a text. -/
def allSpots (t : Tree) : List Spot := t.spots [] [] []

/-! ## The places of the outline -/

variable {place : Place} {k : NodeKind} {p : Position} {ts : List Tree}

theorem hasPassage_eq (place : Place) (k : NodeKind) :
    place.hasPassage k = (passage? place k).isSome := by
  cases place <;> cases k <;> rfl

theorem inside?_of_passage? {place' : Place} (h : passage? place k = some place') :
    k.inside? = some place' := by
  unfold passage? at h
  split at h <;> cases h <;> rfl

/-- What the outline takes for a statement is one: a node with a body, one without, or an export. -/
theorem hasStatement_eq (place : Place) (p : Position) (ts : List Tree) (k : NodeKind) :
    place.hasStatement k = ((passage? place k).isNone &&
      ((compoundAt? place p ts k).isSome || (simpleAt? place p ts k).isSome ||
        k = .exportStatement && (place = .list || place = .branch))) := by
  cases place <;> cases k <;> rfl

theorem of_compoundKind? {kind : CompoundKind} {place' : Place}
    (h : compoundKind? p ts k = some (kind, place')) :
    k ≠ .exportStatement ∧ k.inside? = some place' ∧ k.typeName? = some kind.typeName := by
  unfold compoundKind? at h
  split at h <;> cases h <;> exact ⟨by decide, rfl, rfl⟩

theorem of_compoundAt? {kind : CompoundKind} {place' : Place}
    (h : compoundAt? place p ts k = some (kind, place')) :
    k ≠ .exportStatement ∧ k.inside? = some place' ∧ k.typeName? = some kind.typeName := by
  cases place with
  | list => exact of_compoundKind? h
  | branch => exact of_compoundKind? h
  | cases => cases h
  | members =>
    obtain ⟨c, hc, hkind⟩ := Option.map_eq_some_iff.1 h
    unfold memberKind? at hc
    split at hc <;> cases hc <;> cases hkind <;> exact ⟨by decide, rfl, rfl⟩
  | exported =>
    dsimp only [compoundAt?] at h
    unfold valueKind? at h
    split at h
    · cases h
      exact ⟨by decide, rfl, rfl⟩
    · cases h
      exact ⟨by decide, rfl, rfl⟩
    · split at h
      · exact of_compoundKind? h
      · cases h

theorem of_simpleKind? {kind : SimpleKind} (h : simpleKind? p ts k = some kind) :
    k ≠ .exportStatement ∧ k.inside? = none ∧ k.typeName? = some kind.typeName := by
  unfold simpleKind? at h
  split at h <;> cases h <;> exact ⟨by decide, rfl, rfl⟩

theorem of_simpleAt? {kind : SimpleKind} (h : simpleAt? place p ts k = some kind) :
    k ≠ .exportStatement ∧ k.inside? = none ∧ k.typeName? = some kind.typeName := by
  cases place with
  | list => exact of_simpleKind? h
  | branch => exact of_simpleKind? h
  | cases => cases h
  | members =>
    dsimp only [simpleAt?] at h
    split at h
    · next hk =>
      cases h
      cases hk
      exact ⟨by decide, rfl, rfl⟩
    · cases h
  | exported =>
    dsimp only [simpleAt?] at h
    split at h
    · exact of_simpleKind? h
    · cases h

theorem leadsTo_eq {l : NodeKind} (h : l.inside? = some place) (k : NodeKind) :
    l.leadsTo k = (place.hasStatement k || place.hasPassage k) := by
  rw [NodeKind.leadsTo, h, Option.any_some]

/-- Below the word `export` the outline finds nothing if and only if nothing there counts as a
declaration. -/
theorem outlineAll_exported_eq_nil (p : Position) (ts : List Tree) :
    outlineAll .exported p ts = [] ↔
      (ts.any fun t => t.kind?.any NodeKind.exportStatement.leadsTo) = false := by
  induction ts generalizing p with
  | nil => exact ⟨fun _ => rfl, fun _ => rfl⟩
  | cons t ts ih =>
    have hhead (stop : Position) : outline .exported p stop t = [] ↔
        t.kind?.any NodeKind.exportStatement.leadsTo = false := by
      cases t with
      | leaf kind chars => exact ⟨fun _ => rfl, fun _ => rfl⟩
      | missing spelling => exact ⟨fun _ => rfl, fun _ => rfl⟩
      | node k us =>
        have hpassage : passage? .exported k = none := by cases k <;> rfl
        have hleads : NodeKind.exportStatement.leadsTo k =
            (Place.exported.hasStatement k || Place.exported.hasPassage k) := leadsTo_eq rfl k
        rw [kind?, Option.any_some, hleads, hasPassage_eq,
          hasStatement_eq .exported p us, hpassage, outline, hpassage]
        cases hcompound : compoundAt? .exported p us k with
        | some found => simp
        | none =>
          cases hsimple : simpleAt? .exported p us k with
          | some kind => simp
          | none => simp
    rw [outlineAll, List.append_eq_nil_iff, hhead, ih, List.any_cons, Bool.or_eq_false_iff]

/-! ## The statements among the nodes -/

open Position (origin)

mutual

/-- Below nodes that lead to nothing there is no statement. -/
theorem filter_spots_eq_nil {around : List NodeKind} (h : ∀ k, Spot.leadTo k around = false)
    (before : Text) (behind : List Tree) :
    ∀ t : Tree, (spots around before behind t).filter (·.isStatement) = []
  | leaf _ _ => rfl
  | missing _ => rfl
  | node k ts => by
    have hbelow (k' : NodeKind) : Spot.leadTo k' (k :: around) = false := by
      rw [Spot.leadTo, h, Bool.and_false]
    rw [spots, List.filter_cons_of_neg (by simp [Spot.isStatement, h]),
      filter_spotsAll_eq_nil hbelow before ts]

theorem filter_spotsAll_eq_nil {around : List NodeKind} (h : ∀ k, Spot.leadTo k around = false)
    (before : Text) : ∀ ts : List Tree, (spotsAll around before ts).filter (·.isStatement) = []
  | [] => rfl
  | t :: ts => by
    rw [spotsAll, List.filter_append, filter_spots_eq_nil h before ts t,
      filter_spotsAll_eq_nil h _ ts, List.nil_append]

end

variable {around : List NodeKind} {before : Text} {behind : List Tree} {l : NodeKind}

/-- A node below nodes that lead to a place is a statement if the place has statements of its kind,
unless it is an export that wraps a declaration. -/
theorem isStatement_eq (hplace : l.inside? = some place) (hl : Spot.leadTo l around = true) :
    (Spot.mk ⟨before, k, ts, behind⟩ (l :: around)).isStatement =
      (place.hasStatement k && !(Spot.mk ⟨before, k, ts, behind⟩ (l :: around)).wraps) := by
  rw [Spot.isStatement, Spot.leadTo, hl, leadsTo_eq hplace, List.head?_cons, Option.bind_some,
    hplace, Option.any_some]
  cases place.hasStatement k <;> simp

theorem leadTo_cons (hplace : l.inside? = some place) (hl : Spot.leadTo l around = true) :
    Spot.leadTo k (l :: around) = (place.hasStatement k || (passage? place k).isSome) := by
  rw [Spot.leadTo, hl, leadsTo_eq hplace, hasPassage_eq, Bool.and_true]

theorem wraps_eq_false (h : k ≠ .exportStatement) :
    (Spot.mk ⟨before, k, ts, behind⟩ around).wraps = false := by
  rw [Spot.wraps, decide_eq_false h, Bool.false_and]

/-- An export that wraps no declaration is a statement, and any other one only lends what it
wraps. -/
theorem forall₂_export (hplace : l.inside? = some place) (hl : Spot.leadTo l around = true)
    (hhas : place.hasStatement .exportStatement = true)
    (hdeclared : List.Forall₂ Spot.Makes
      ((spotsAll (.exportStatement :: l :: around) before ts).filter (·.isStatement))
      (Statement.preorderAll (outlineAll .exported (origin.advance before) ts))) :
    List.Forall₂ Spot.Makes
      ((spots (l :: around) before behind (node .exportStatement ts)).filter (·.isStatement))
      (Statement.preorderAll (match outlineAll .exported (origin.advance before) ts with
        | [] => [.simple .exports
          ⟨origin.advance before, advanceAll (origin.advance before) ts⟩]
        | ss => ss)) := by
  have hown : (Spot.mk ⟨before, .exportStatement, ts, behind⟩ (l :: around)).isStatement = _ :=
    isStatement_eq hplace hl
  have hnil := outlineAll_exported_eq_nil (origin.advance before) ts
  rw [spots]
  cases hout : outlineAll .exported (origin.advance before) ts with
  | nil =>
    rw [hout] at hdeclared
    rw [List.filter_cons_of_pos (by simp [hown, hhas, Spot.wraps, hnil.1 hout]),
      List.forall₂_nil_right_iff.1 hdeclared]
    exact .cons ⟨rfl, makes_exports rfl⟩ .nil
  | cons st sts =>
    have hwraps : (ts.any fun t => t.kind?.any NodeKind.exportStatement.leadsTo) = true := by
      rw [← Bool.not_eq_false, ← hnil, hout]
      exact List.cons_ne_nil st sts
    rw [hout] at hdeclared
    rw [List.filter_cons_of_neg (by simp [hown, Spot.wraps, hwraps])]
    exact hdeclared

/-- The statements that a node contributes at a place are the statements among the nodes of its tree
if that is so for the statements inside of it. -/
theorem forall₂_node (hplace : l.inside? = some place) (hl : Spot.leadTo l around = true)
    (hbelow : ∀ place', k.inside? = some place' → Spot.leadTo k (l :: around) = true →
      List.Forall₂ Spot.Makes
        ((spotsAll (k :: l :: around) before ts).filter (·.isStatement))
        (Statement.preorderAll (outlineAll place' (origin.advance before) ts))) :
    List.Forall₂ Spot.Makes
      ((spots (l :: around) before behind (node k ts)).filter (·.isStatement))
      (Statement.preorderAll (outline place (origin.advance before)
        (origin.advance (before ++ (node k ts).text ++
          if place = .members then (semicolonBehind? behind).getD [] else [])) (node k ts))) := by
  have hown : (Spot.mk ⟨before, k, ts, behind⟩ (l :: around)).isStatement = _ :=
    isStatement_eq hplace hl
  have hleads := leadTo_cons (k := k) hplace hl
  have hhas := hasStatement_eq place (origin.advance before) ts k
  rw [outline]
  -- The cases are those of the outline: what only lends its statements, what has a body, what has
  -- none, an export, and what is no statement at all.
  cases hpassage : passage? place k with
  | some place' =>
    rw [hpassage] at hhas hleads
    rw [spots, List.filter_cons_of_neg (by simp [hown, hhas])]
    exact hbelow place' (inside?_of_passage? hpassage) (by simp [hleads])
  | none =>
    rw [hpassage, Option.isNone_none, Bool.true_and] at hhas
    cases hcompound : compoundAt? place (origin.advance before) ts k with
    | some found =>
      obtain ⟨kind, place'⟩ := found
      obtain ⟨hexport, hinside, hname⟩ := of_compoundAt? hcompound
      rw [hcompound, Option.isSome_some, Bool.true_or, Bool.true_or] at hhas
      rw [spots, List.filter_cons_of_pos (by simp [hown, hhas, wraps_eq_false hexport])]
      simp only [Statement.preorderAll_cons, Statement.preorderAll_nil, List.append_nil,
        Statement.preorder_compound]
      exact .cons ⟨hname, makes_compound hcompound _⟩
        (hbelow place' hinside (by rw [hleads, hhas, Bool.true_or]))
    | none =>
      cases hsimple : simpleAt? place (origin.advance before) ts k with
      | some kind =>
        obtain ⟨hexport, hinside, hname⟩ := of_simpleAt? hsimple
        rw [hcompound, hsimple, Option.isSome_some, Bool.or_true, Bool.true_or] at hhas
        rw [spots, List.filter_cons_of_pos (by simp [hown, hhas, wraps_eq_false hexport]),
          filter_spotsAll_eq_nil (by simp [Spot.leadTo, NodeKind.leadsTo, hinside]), text_node]
        simp only [Statement.preorderAll_cons, Statement.preorderAll_nil, List.append_nil,
          Statement.preorder_simple]
        exact .cons ⟨hname, makes_simple hsimple⟩ .nil
      | none =>
        rw [hcompound, hsimple, Option.isSome_none, Option.isSome_none, Bool.false_or,
          Bool.false_or] at hhas
        dsimp only
        split
        · next hexport =>
          rw [hexport] at hhas
          obtain rfl : k = .exportStatement :=
            of_decide_eq_true (Bool.and_eq_true_iff.1 hexport).1
          exact forall₂_export hplace hl hhas
            (hbelow .exported rfl (by rw [hleads, hhas, Bool.true_or]))
        · next hexport =>
          rw [Bool.not_eq_true] at hexport
          rw [hexport] at hhas
          rw [hpassage, hhas] at hleads
          rw [spots, List.filter_cons_of_neg (by simp [hown, hhas]), filter_spotsAll_eq_nil]
          · exact .nil
          · intro k'
            rw [Spot.leadTo, hleads]
            exact Bool.and_false _

mutual

/-- The statements that a tree contributes at a place are the statements among its nodes. -/
theorem forall₂_outline {around : List NodeKind} {l : NodeKind} {place : Place}
    (hplace : l.inside? = some place) (hl : Spot.leadTo l around = true) (before : Text)
    (behind : List Tree) : ∀ t : Tree,
    List.Forall₂ Spot.Makes ((spots (l :: around) before behind t).filter (·.isStatement))
      (Statement.preorderAll (outline place (origin.advance before)
        (origin.advance (before ++ t.text ++
          if place = .members then (semicolonBehind? behind).getD [] else [])) t))
  | leaf _ _ => by
    rw [spots, outline]
    exact .nil
  | missing _ => by
    rw [spots, outline]
    exact .nil
  | node _ ts =>
    forall₂_node hplace hl fun _ hinside hk => forall₂_outlineAll hinside hk before ts

/-- The same for trees that follow one another. -/
theorem forall₂_outlineAll {around : List NodeKind} {l : NodeKind} {place : Place}
    (hplace : l.inside? = some place) (hl : Spot.leadTo l around = true) (before : Text) :
    ∀ ts : List Tree,
    List.Forall₂ Spot.Makes ((spotsAll (l :: around) before ts).filter (·.isStatement))
      (Statement.preorderAll (outlineAll place (origin.advance before) ts))
  | [] => by
    rw [spotsAll, outlineAll]
    exact .nil
  | t :: ts => by
    have hhead := forall₂_outline hplace hl before ts t
    have hrest := forall₂_outlineAll hplace hl (before ++ t.text) ts
    rw [spotsAll, outlineAll]
    simp only [stop_eq]
    rw [List.filter_append, Statement.preorderAll_append, advance_eq, ← Position.advance_append]
    exact List.rel_append hhead hrest

end

end Tree

/-- The statements of a program, each before those in its body, are the statements among the nodes of
its tree, each before those inside of it: one comes from each, in the same order. -/
theorem Model.forall₂_statements (ts : List Tree) (filename : Text) :
    List.Forall₂ Spot.Makes ((Tree.node .program ts).allSpots.filter (·.isStatement))
      (Statement.preorderAll (ofTree (.node .program ts) filename).program) :=
  Tree.forall₂_outlineAll rfl rfl [] ts

end ScriptStyle
