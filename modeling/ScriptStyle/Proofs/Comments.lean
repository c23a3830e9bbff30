import ScriptStyle.Proofs.Bindings

/-!
# Comments and the structure of statements

A comment may stand between any two lexemes, so it turns up among the parts of nearly every node.
The outline of a tree never looks at it: no statement, no name and no word that decides about a
declaration is lost or found when comments go. `Model.agree_program` says so for any comments of a
tree. Where a comment was there is blank space of the same extent, so that all that is left stays
where it was.

Only the end of a field depends on comments. The semicolon behind a field belongs to it unless a
comment stands in between, so with the comment gone the field may end later than before.
-/

namespace ScriptStyle

namespace Statement

mutual

/-- Two statements are the same apart from where fields end: those of the second one end no earlier
than those of the first. -/
inductive Agrees : Statement → Statement → Prop where
  | simple (kind : SimpleKind) (s : Span) : Agrees (simple kind s) (simple kind s)
  | field {p q r : Position} (h : q.le r = true) :
      Agrees (simple .field ⟨p, q⟩) (simple .field ⟨p, r⟩)
  | compound (kind : CompoundKind) (s : Span) {body body' : List Statement}
      (h : AgreeAll body body') : Agrees (compound kind s body) (compound kind s body')

/-- The same for statements that follow one another. -/
inductive AgreeAll : List Statement → List Statement → Prop where
  | nil : AgreeAll [] []
  | cons {s t : Statement} {ss ts : List Statement} (h : Agrees s t) (hs : AgreeAll ss ts) :
      AgreeAll (s :: ss) (t :: ts)

end

theorem AgreeAll.append {ss ss' ts ts' : List Statement} (h : AgreeAll ss ss')
    (h' : AgreeAll ts ts') : AgreeAll (ss ++ ts) (ss' ++ ts') := by
  induction ss generalizing ss' with
  | nil =>
    cases h
    exact h'
  | cons s ss ih =>
    cases h with
    | cons h hs => exact .cons h (ih hs)

end Statement

namespace Tree

/-! ## Trees without some of their comments -/

mutual

/-- The tree without the comments that begin at some places. What they occupied is blank. -/
def withoutComments (gone : Position → Bool) (p : Position) : Tree → Tree
  | leaf .comment chars => if gone p then leaf .blank chars else leaf .comment chars
  | leaf kind chars => leaf kind chars
  | missing spelling => missing spelling
  | node k ts => node k (withoutCommentsAll gone p ts)

/-- The same for trees that follow one another. -/
def withoutCommentsAll (gone : Position → Bool) (p : Position) : List Tree → List Tree
  | [] => []
  | t :: ts => withoutComments gone p t :: withoutCommentsAll gone (t.advance p) ts

end

variable (gone : Position → Bool)

/-- What does not tell a comment from a blank does not tell whether a leaf is gone. -/
theorem apply_withoutComments_leaf {α : Type} (f : Tree → α)
    (h : ∀ chars, f (leaf .blank chars) = f (leaf .comment chars)) (p : Position)
    (kind : LeafKind) (chars : Text) :
    f (withoutComments gone p (leaf kind chars)) = f (leaf kind chars) := by
  cases kind with
  | comment =>
    rw [withoutComments]
    by_cases hgone : gone p = true
    · rw [if_pos hgone]
      exact h chars
    · rw [if_neg hgone]
  | _ => rfl

mutual

theorem advance_withoutComments (p q : Position) :
    ∀ t : Tree, (withoutComments gone p t).advance q = t.advance q
  | leaf kind chars => apply_withoutComments_leaf gone (advance q) (fun _ => rfl) p kind chars
  | missing _ => rfl
  | node _ ts => advanceAll_withoutComments p q ts

/-- Nothing moves when comments go. -/
theorem advanceAll_withoutComments (p q : Position) :
    ∀ ts : List Tree, advanceAll q (withoutCommentsAll gone p ts) = advanceAll q ts
  | [] => rfl
  | t :: ts => by
    rw [withoutCommentsAll, advanceAll, advanceAll, advance_withoutComments p q t,
      advanceAll_withoutComments _ _ ts]

end

/-! ## Names -/

mutual

theorem bound_withoutComments (b : Binding) (p q : Position) :
    ∀ t : Tree, bound b q (withoutComments gone p t) = bound b q t
  | leaf kind chars => apply_withoutComments_leaf gone (bound b q) (fun _ => rfl) p kind chars
  | missing _ => rfl
  | node k ts => by
    have hall (b' : Binding) := boundAll_withoutComments b' p q ts
    rw [withoutComments]
    cases k with
    | shorthandDefault =>
      cases ts with
      | nil => rfl
      | cons t ts => exact bound_withoutComments .pattern p q t
    | assignment =>
      cases ts with
      | nil => rfl
      | cons t ts =>
        have hfirst := bound_withoutComments .pattern p q t
        have hrest := boundAll_withoutComments .value (t.advance p) (t.advance q) ts
        rw [withoutCommentsAll]
        cases b with
        | pattern => exact congrArg (· ++ []) hfirst
        | value =>
          show bound .pattern q _ ++ boundAll .value ((withoutComments gone p t).advance q) _ =
            bound .pattern q t ++ boundAll .value (t.advance q) ts
          rw [hfirst, advance_withoutComments, hrest]
    | pair =>
      cases b with
      | pattern => exact boundLast_withoutComments p q ts
      | value => exact hall .value
    | _ => exact hall _

theorem boundAll_withoutComments (b : Binding) (p q : Position) :
    ∀ ts : List Tree, boundAll b q (withoutCommentsAll gone p ts) = boundAll b q ts
  | [] => rfl
  | t :: ts => by
    rw [withoutCommentsAll, boundAll, boundAll, bound_withoutComments b p q t,
      advance_withoutComments, boundAll_withoutComments b _ _ ts]

theorem boundLast_withoutComments (p q : Position) :
    ∀ ts : List Tree, boundLast q (withoutCommentsAll gone p ts) = boundLast q ts
  | [] => rfl
  | [t] => bound_withoutComments .pattern p q t
  | t :: u :: ts => by
    have ih := boundLast_withoutComments (t.advance p) (t.advance q) (u :: ts)
    rw [withoutCommentsAll] at ih ⊢
    rw [withoutCommentsAll, boundLast, boundLast, advance_withoutComments, ih]

end

theorem declaratorNames_withoutComments (p q : Position) (t : Tree) :
    declaratorNames q (withoutComments gone p t) = declaratorNames q t := by
  cases t with
  | leaf kind chars =>
    exact apply_withoutComments_leaf gone (declaratorNames q) (fun _ => rfl) p kind chars
  | missing spelling => rfl
  | node k us =>
    cases k with
    | declarator =>
      cases us with
      | nil => rfl
      | cons u us => exact bound_withoutComments gone .pattern p q u
    | _ => rfl

theorem declaredNames_withoutComments (p q : Position) (ts : List Tree) :
    declaredNames q (withoutCommentsAll gone p ts) = declaredNames q ts := by
  induction ts generalizing p q with
  | nil => rfl
  | cons t ts ih =>
    rw [withoutCommentsAll, declaredNames_cons, declaredNames_cons, advance_withoutComments, ih,
      declaratorNames_withoutComments]

theorem firstName?_withoutComments (p q : Position) (ts : List Tree) :
    firstName? q (withoutCommentsAll gone p ts) = firstName? q ts := by
  induction ts generalizing p q with
  | nil => rfl
  | cons t ts ih =>
    have ih := ih (t.advance p) (t.advance q)
    rw [withoutCommentsAll]
    cases t with
    | leaf kind chars =>
      have hleaf := apply_withoutComments_leaf gone
        (fun u => firstName? q (u :: withoutCommentsAll gone ((leaf kind chars).advance p) ts))
        (fun _ => rfl) p kind chars
      refine hleaf.trans ?_
      cases kind with
      | name => rfl
      | _ => exact ih
    | missing spelling => exact ih
    | node k us =>
      show firstName? ((withoutComments gone p (node k us)).advance q) _ =
        firstName? ((node k us).advance q) ts
      rw [advance_withoutComments]
      exact ih

theorem declarationKind_withoutComments (p : Position) (ts : List Tree) :
    declarationKind (withoutCommentsAll gone p ts) = declarationKind ts := by
  cases ts with
  | nil => rfl
  | cons t ts =>
    cases t with
    | leaf kind chars =>
      exact apply_withoutComments_leaf gone (fun u => declarationKind (u :: _)) (fun _ => rfl) p
        kind chars
    | missing spelling => rfl
    | node k us => rfl

/-- A semicolon that belongs to a field does so all the more without comments. -/
theorem fieldStop_le_withoutComments (p q : Position) (ts : List Tree) :
    (fieldStop q ts).le (fieldStop q (withoutCommentsAll gone p ts)) = true := by
  have hsome : ∀ (r : Position), semicolonEnd? q ts = some r →
      semicolonEnd? q (withoutCommentsAll gone p ts) = some r := by
    intro r h
    fun_induction semicolonEnd? q ts generalizing p with
    | case1 q chars ts ih => exact ih _ h
    | case2 q ts => exact h
    | case3 => cases h
  cases h : semicolonEnd? q ts with
  | none =>
    rw [fieldStop, h]
    exact le_fieldStop q _
  | some r =>
    rw [fieldStop, fieldStop, h, hsome r h]
    exact Position.le_refl r

/-! ## Statements -/

theorem simpleKind?_withoutComments (p q : Position) (ts : List Tree) (k : NodeKind) :
    simpleKind? q (withoutCommentsAll gone p ts) k = simpleKind? q ts k := by
  unfold simpleKind?
  simp only [declaredNames_withoutComments, declarationKind_withoutComments]

theorem simpleAt?_withoutComments (place : Place) (p q : Position) (ts : List Tree)
    (k : NodeKind) :
    simpleAt? place q (withoutCommentsAll gone p ts) k = simpleAt? place q ts k := by
  unfold simpleAt?
  simp only [simpleKind?_withoutComments]

theorem compoundKind?_withoutComments (p q : Position) (ts : List Tree) (k : NodeKind) :
    compoundKind? q (withoutCommentsAll gone p ts) k = compoundKind? q ts k := by
  unfold compoundKind?
  simp only [firstName?_withoutComments]

theorem compoundAt?_withoutComments (place : Place) (p q : Position) (ts : List Tree)
    (k : NodeKind) :
    compoundAt? place q (withoutCommentsAll gone p ts) k = compoundAt? place q ts k := by
  unfold compoundAt? valueKind?
  simp only [compoundKind?_withoutComments, firstName?_withoutComments]

open Statement (AgreeAll)

mutual

/-- Without comments a tree contributes the same statements. Fields may end later. -/
theorem agree_outline (place : Place) (p q : Position) {stop stop' : Position}
    (hstop : stop.le stop' = true) (hsame : place ≠ .members → stop' = stop) : ∀ t : Tree,
    AgreeAll (outline place q stop t) (outline place q stop' (withoutComments gone p t))
  | leaf kind chars => by
    rw [apply_withoutComments_leaf gone (outline place q stop') (fun _ => rfl)]
    exact .nil
  | missing _ => .nil
  | node k ts => by
    have hinner (place' : Place) := agree_outlineAll place' p q ts
    rw [withoutComments, outline, outline, compoundAt?_withoutComments,
      simpleAt?_withoutComments, advanceAll_withoutComments]
    cases passage? place k with
    | some place' => exact hinner place'
    | none =>
      cases compoundAt? place q ts k with
      | some found => exact .cons (.compound found.1 _ (hinner found.2)) .nil
      | none =>
        cases hsimple : simpleAt? place q ts k with
        | some kind =>
          by_cases hplace : place = .members
          · -- Among the members of a class only fields are statements without a body.
            subst hplace
            obtain rfl : kind = .field := by
              unfold simpleAt? at hsimple
              dsimp only at hsimple
              split at hsimple <;> cases hsimple
              rfl
            exact .cons (.field hstop) .nil
          · rw [hsame hplace]
            exact .cons (.simple kind _) .nil
        | none =>
          dsimp only
          split
          · have hexported := hinner .exported
            generalize outlineAll .exported q ts = ss at hexported ⊢
            generalize outlineAll .exported q (withoutCommentsAll gone p ts) = ss' at hexported ⊢
            cases hexported with
            | nil => exact .cons (.simple .exports _) .nil
            | cons h hs => exact .cons h hs
          · exact .nil

theorem agree_outlineAll (place : Place) (p q : Position) : ∀ ts : List Tree,
    AgreeAll (outlineAll place q ts) (outlineAll place q (withoutCommentsAll gone p ts))
  | [] => .nil
  | t :: ts => by
    have hrest := agree_outlineAll place (t.advance p) (t.advance q) ts
    rw [withoutCommentsAll, outlineAll, outlineAll, advance_withoutComments]
    refine (agree_outline place p q ?_ ?_ t).append hrest
    · split
      · exact fieldStop_le_withoutComments gone _ _ ts
      · exact Position.le_refl _
    · intro hplace
      rw [if_neg hplace, if_neg hplace]

end

end Tree

/-- Any comments of a tree may go: the statements stay, with their kinds, their names, the
statements in their bodies and where all of it stands, except that fields may end later. -/
theorem Model.agree_program (t : Tree) (gone : Position → Bool) (filename : Text) :
    Statement.AgreeAll (ofTree t filename).program
      (ofTree (t.withoutComments gone .origin) filename).program := by
  cases t with
  | leaf kind chars =>
    have hleaf := Tree.apply_withoutComments_leaf gone (fun u => (ofTree u filename).program)
      (fun _ => rfl) .origin kind chars
    rw [hleaf]
    exact .nil
  | missing spelling => exact .nil
  | node k ts => exact Tree.agree_outlineAll gone .list .origin .origin ts

end ScriptStyle
