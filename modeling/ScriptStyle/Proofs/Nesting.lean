import ScriptStyle.Source.Read
import ScriptStyle.Proofs.Places

/-!
# The order and the nesting of statements

The outline of a tree lends the statements of a block to the statement around it, puts the branches
of a control statement into one body, takes an export for what it declares, and stretches a field
over the semicolon behind it. `Model.isLaidOut_program` says that statements stay in their order all
the same: in each list every statement ends before the next one begins, and whatever stands in the
body of a statement, at any depth, lies inside that statement.

The stretched fields are the reason why `Tree.isLaidOut_outlineAll` begins at `Tree.fieldStop`: the
trees behind a field contribute no statement before the place where the field ends.
-/

namespace ScriptStyle

namespace Span

/-- A stretch ends before another one begins, at the latest where that one begins. -/
def Precedes (s t : Span) : Prop := s.stop.le t.start = true

/-- A stretch lies inside another one. -/
structure IsWithin (s outer : Span) : Prop where
  /-- It begins inside. -/
  start_le : outer.start.le s.start = true
  /-- It ends no earlier than it begins. -/
  start_le_stop : s.start.le s.stop = true
  /-- It ends inside. -/
  stop_le : s.stop.le outer.stop = true

end Span

namespace Statement

/-- Statements stand between two places, in the order of the text and apart from one another, and so
do the statements of every body below them, inside the statement with that body. -/
structure IsLaidOut (p q : Position) (ss : List Statement) : Prop where
  /-- Each statement ends before the next one begins. -/
  apart : ss.Pairwise fun s t => s.span.Precedes t.span
  /-- The statements and all below them stand between the two places. -/
  within : ∀ s ∈ preorderAll ss, s.span.IsWithin ⟨p, q⟩
  /-- In every body each statement ends before the next one begins, and the statements of the body
  and all below them stand inside the statement with the body. -/
  inner : ∀ kind span body, compound kind span body ∈ preorderAll ss →
    (body.Pairwise fun s t => s.span.Precedes t.span) ∧
      ∀ s ∈ preorderAll body, s.span.IsWithin span

variable {p q r : Position} {ss ts : List Statement}

theorem mem_preorderAll_of_mem {s : Statement} (hs : s ∈ ss) : s ∈ preorderAll ss := by
  induction ss with
  | nil => cases hs
  | cons t ss ih =>
    rw [preorderAll_cons, List.mem_append]
    rcases List.mem_cons.1 hs with rfl | hs
    · left
      cases s <;> simp
    · exact .inr (ih hs)

namespace IsLaidOut

theorem nil (p q : Position) : IsLaidOut p q [] where
  apart := .nil
  within := by simp
  inner := by simp

theorem widen {p' q' : Position} (h : IsLaidOut p q ss) (hp : p'.le p = true)
    (hq : q.le q' = true) : IsLaidOut p' q' ss where
  apart := h.apart
  within := by
    intro s hs
    have hin := h.within s hs
    exact ⟨Position.le_trans hp hin.start_le, hin.start_le_stop, Position.le_trans hin.stop_le hq⟩
  inner := h.inner

theorem simple (kind : SimpleKind) (hpq : p.le q = true) :
    IsLaidOut p q [.simple kind ⟨p, q⟩] where
  apart := List.pairwise_singleton _ _
  within := by
    intro s hs
    obtain rfl : s = .simple kind ⟨p, q⟩ := by simpa using hs
    exact ⟨Position.le_refl p, hpq, Position.le_refl q⟩
  inner := by simp

/-- A statement around its body. -/
theorem compound (kind : CompoundKind) (hpq : p.le q = true) (h : IsLaidOut p q ss) :
    IsLaidOut p q [.compound kind ⟨p, q⟩ ss] where
  apart := List.pairwise_singleton _ _
  within := by
    intro s hs
    rw [preorderAll_cons, preorderAll_nil, List.append_nil, preorder_compound] at hs
    rcases List.mem_cons.1 hs with rfl | hs
    · exact ⟨Position.le_refl p, hpq, Position.le_refl q⟩
    · exact h.within s hs
  inner := by
    intro kind' span body hbody
    rw [preorderAll_cons, preorderAll_nil, List.append_nil, preorder_compound] at hbody
    rcases List.mem_cons.1 hbody with heq | hbody
    · cases heq
      exact ⟨h.apart, h.within⟩
    · exact h.inner kind' span body hbody

/-- Statements in front of other ones. -/
theorem append (hpq : p.le q = true) (hqr : q.le r = true) (h : IsLaidOut p q ss)
    (h' : IsLaidOut q r ts) : IsLaidOut p r (ss ++ ts) where
  apart := by
    refine List.pairwise_append.2 ⟨h.apart, h'.apart, ?_⟩
    intro s hs t ht
    exact Position.le_trans (h.within s (mem_preorderAll_of_mem hs)).stop_le
      (h'.within t (mem_preorderAll_of_mem ht)).start_le
  within := by
    intro s hs
    rw [preorderAll_append] at hs
    rcases List.mem_append.1 hs with hs | hs
    · exact (h.widen (Position.le_refl p) hqr).within s hs
    · exact (h'.widen hpq (Position.le_refl r)).within s hs
  inner := by
    intro kind span body hbody
    rw [preorderAll_append] at hbody
    rcases List.mem_append.1 hbody with hbody | hbody
    · exact h.inner kind span body hbody
    · exact h'.inner kind span body hbody

end IsLaidOut

end Statement

namespace Tree

open Statement (IsLaidOut)

theorem le_advance (p : Position) (t : Tree) : p.le (t.advance p) = true := by
  rw [advance_eq]
  exact Position.le_advance p t.text

theorem le_advanceAll (p : Position) (ts : List Tree) : p.le (advanceAll p ts) = true := by
  rw [advanceAll_eq]
  exact Position.le_advance p (textOf ts)

/-- Where a field ends that ends at `p` with some trees behind it. -/
def fieldStop (p : Position) (ts : List Tree) : Position := (semicolonEnd? p ts).getD p

theorem le_fieldStop (p : Position) (ts : List Tree) : p.le (fieldStop p ts) = true := by
  unfold fieldStop
  fun_induction semicolonEnd? p ts with
  | case1 p chars ts ih =>
    cases h : semicolonEnd? (p.advance chars) ts with
    | none => exact Position.le_refl p
    | some r =>
      rw [h] at ih
      exact Position.le_trans (Position.le_advance p chars) ih
  | case2 p ts => exact Position.le_advance p [';']
  | case3 ts p => exact Position.le_refl p

theorem fieldStop_le (p : Position) (ts : List Tree) :
    (fieldStop p ts).le (advanceAll p ts) = true := by
  unfold fieldStop
  fun_induction semicolonEnd? p ts with
  | case1 p chars ts ih =>
    cases h : semicolonEnd? (p.advance chars) ts with
    | none => exact le_advanceAll p _
    | some r =>
      rw [h] at ih
      exact ih
  | case2 p ts => exact le_advanceAll (p.advance [';']) ts
  | case3 ts p => exact le_advanceAll p ts

theorem fieldStop_node (p : Position) (k : NodeKind) (us ts : List Tree) :
    fieldStop p (node k us :: ts) = p := rfl

/-- A leaf behind a field does not draw the end of the field back. -/
theorem fieldStop_leaf_le (p : Position) (kind : LeafKind) (chars : Text) (ts : List Tree) :
    (fieldStop p (leaf kind chars :: ts)).le (fieldStop (p.advance chars) ts) = true := by
  rw [fieldStop, semicolonEnd?.eq_def]
  split
  · next heq =>
    cases heq
    cases h : semicolonEnd? (p.advance chars) ts with
    | none => exact Position.le_trans (Position.le_advance p chars) (le_fieldStop _ ts)
    | some r =>
      rw [fieldStop, h]
      exact Position.le_refl r
  · next heq =>
    cases heq
    exact le_fieldStop (p.advance [';']) ts
  · exact Position.le_trans (Position.le_advance p chars) (le_fieldStop _ ts)

mutual

/-- The statements of a tree stand between its beginning and the place where a field would end. -/
theorem isLaidOut_outline (place : Place) (p : Position) {stop : Position} :
    ∀ t : Tree, (t.advance p).le stop = true → IsLaidOut p stop (outline place p stop t)
  | leaf _ _, _ => .nil p stop
  | missing _, _ => .nil p stop
  | node k ts, hstop => by
    have hinside (place' : Place) : IsLaidOut p (advanceAll p ts) (outlineAll place' p ts) :=
      (isLaidOut_outlineAll place' p ts).widen (le_fieldStop p ts) (Position.le_refl _)
    have hpq : p.le (advanceAll p ts) = true := le_advanceAll p ts
    rw [outline]
    split
    · next place' _ => exact (hinside place').widen (Position.le_refl p) hstop
    · split
      · next kind place' _ =>
        exact ((hinside place').compound kind hpq).widen (Position.le_refl p) hstop
      · split
        · next kind _ => exact .simple kind (Position.le_trans hpq hstop)
        · split
          · split
            · exact (IsLaidOut.simple .exports hpq).widen (Position.le_refl p) hstop
            · exact (hinside .exported).widen (Position.le_refl p) hstop
          · exact .nil p stop

/-- The statements of trees that follow one another stand between the place where a field in front
of them would end and the end of the trees. -/
theorem isLaidOut_outlineAll (place : Place) (p : Position) :
    ∀ ts : List Tree, IsLaidOut (fieldStop p ts) (advanceAll p ts) (outlineAll place p ts)
  | [] => .nil _ _
  | t :: ts => by
    rw [outlineAll, advanceAll]
    have hrest := isLaidOut_outlineAll place (t.advance p) ts
    generalize hstop : (if place = .members then
      (semicolonEnd? (t.advance p) ts).getD (t.advance p) else t.advance p) = stop
    have hle : (t.advance p).le stop = true ∧ stop.le (fieldStop (t.advance p) ts) = true := by
      subst hstop
      split
      · exact ⟨le_fieldStop _ ts, Position.le_refl _⟩
      · exact ⟨Position.le_refl _, le_fieldStop _ ts⟩
    cases t with
    | leaf kind chars => exact hrest.widen (fieldStop_leaf_le p kind chars ts) (Position.le_refl _)
    | missing spelling => exact hrest.widen (le_fieldStop p ts) (Position.le_refl _)
    | node k us =>
      have hhead := isLaidOut_outline place p (node k us) hle.1
      rw [fieldStop_node]
      refine hhead.append (Position.le_trans (le_advance p _) hle.1) ?_
        (hrest.widen hle.2 (Position.le_refl _))
      exact Position.le_trans hle.2 (fieldStop_le _ ts)

end

end Tree

/-- The statements of a model that comes from a tree stand inside the tree, in the order of the text
and apart from one another, and so do those in every body, inside the statement with that body. -/
theorem Model.isLaidOut_program (t : Tree) (filename : Text) :
    Statement.IsLaidOut .origin (t.advance .origin) (ofTree t filename).program := by
  cases t with
  | leaf kind chars => exact .nil _ _
  | missing spelling => exact .nil _ _
  | node k ts =>
    exact (Tree.isLaidOut_outlineAll .list .origin ts).widen (Tree.le_fieldStop _ _)
      (Position.le_refl _)

end ScriptStyle
