import ScriptStyle.Lint.Spacing
import ScriptStyle.Proofs.Acceptance
import ScriptStyle.Proofs.Sites

/-!
# Spaces around operators and the bytes of the text

The check sorts its rules and looks for the first one that a token breaks. The order within a side
does not matter, because a rule speaks of one operator only: `firstBroken?_rules` gives the result
as the first side that lists the operator and is broken.

For a model that comes from a text the neighbours of a token are bytes of the text. What a side asks
of them is `Side.isViolated`, which knows no lines and no columns.
-/

namespace ScriptStyle

/-- What a side asks for is not the case of the texts before and after an operator. A line feed and
an end of the text are no neighbours. -/
def Side.isViolated (before after : Text) : Side → Bool
  | .before => (Text.byteBefore? before).any (· != Spacing.space)
  | .noBefore => Text.byteBefore? before == some Spacing.space
  | .after => (Text.byteAfter? after).any (· != Spacing.space)
  | .noAfter => Text.byteAfter? after == some Spacing.space

/-- The settings list an operator for a side. -/
def Side.lists (s : Side) (style : SpacesStyle) (operator : Text) : Bool :=
  operator ∈ s.operators style

theorem Side.lists_iff {s : Side} {style : SpacesStyle} {operator : Text} :
    s.lists style operator = true ↔ operator ∈ s.operators style :=
  decide_eq_true_iff

namespace Spacing

variable {m : Model} {style : SpacesStyle}

/-! ## The rules -/

/-- Of the rules of one side a token breaks one if and only if the side lists its operator and is
broken. -/
theorem find?_rulesOf (m : Model) (style : SpacesStyle) (t : Token) (side : Side) :
    (((side.operators style).mergeSort fun a b => b.byteSize ≤ a.byteSize).map
        (SpacingRule.mk · side)).find?
      (fun r => r.operator = t.value && isBroken r.side (neighbour? m t r.side)) =
      (Option.guard (fun side => side.lists style t.value &&
        isBroken side (neighbour? m t side)) side).map (SpacingRule.mk t.value) := by
  rw [List.find?_map]
  cases hfind : List.find? _ ((side.operators style).mergeSort _) with
  | none =>
    have hnone : ¬ (side.lists style t.value && isBroken side (neighbour? m t side)) = true := by
      rw [Bool.and_eq_true, Side.lists_iff]
      rintro ⟨hmem, hbroken⟩
      have := List.find?_eq_none.1 hfind t.value (List.mem_mergeSort.2 hmem)
      simp [hbroken] at this
    rw [Option.guard, if_neg hnone]
    rfl
  | some o =>
    have hmem : o ∈ side.operators style :=
      List.mem_mergeSort.1 (List.mem_of_find?_eq_some hfind)
    obtain ⟨rfl, hbroken⟩ : o = t.value ∧ isBroken side (neighbour? m t side) := by
      simpa using List.find?_some hfind
    have hsome : (side.lists style t.value && isBroken side (neighbour? m t side)) = true := by
      rw [Bool.and_eq_true, Side.lists_iff]
      exact ⟨hmem, hbroken⟩
    rw [Option.guard, if_pos hsome]
    rfl

/-- The first rule that a token breaks is that of the first side that lists its operator and is
broken. -/
theorem firstBroken?_rules (m : Model) (style : SpacesStyle) (t : Token) :
    firstBroken? m (rules style) t =
      (Side.all.find? fun side =>
        side.lists style t.value && isBroken side (neighbour? m t side)).map
        (SpacingRule.mk t.value) := by
  rw [firstBroken?, rules, List.find?_flatMap, ← List.findSome?_guard, List.map_findSome?]
  congr 1
  funext side
  exact find?_rulesOf m style t side

/-! ## The neighbours of a token -/

/-- A side asks of the neighbour of a token what it asks of the text around it. -/
theorem isBroken_neighbour? {s : TokenSite} (h : s.IsIn m.text) (side : Side) :
    isBroken side (neighbour? m s.token side) = side.isViolated s.before s.after := by
  have hbefore : byteBefore? m s.token = Text.byteBefore? s.before := by
    rw [byteBefore?, h.span_eq]
    exact Model.byteBefore?_advance (h.text_eq.trans (List.append_assoc _ _ _))
  have hafter : byteAfter? m s.token = Text.byteAfter? s.after := by
    rw [byteAfter?, h.span_eq, Span.cover, ← Position.advance_append]
    exact Model.byteAt?_advance h.text_eq
  have hwants (o : Option UInt8) :
      (o.any fun b => (b == space) != true) = o.any (· != space) := by
    cases o <;> simp [bne]
  have hforbids (o : Option UInt8) :
      (o.any fun b => (b == space) != false) = (o == some space) := by
    cases o <;> simp
  cases side with
  | before =>
    show ((byteBefore? m s.token).any fun b => (b == space) != true) = _
    rw [hbefore, hwants, Side.isViolated]
  | noBefore =>
    show ((byteBefore? m s.token).any fun b => (b == space) != false) = _
    rw [hbefore, hforbids, Side.isViolated]
  | after =>
    show ((byteAfter? m s.token).any fun b => (b == space) != true) = _
    rw [hafter, hwants, Side.isViolated]
  | noAfter =>
    show ((byteAfter? m s.token).any fun b => (b == space) != false) = _
    rw [hafter, hforbids, Side.isViolated]

/-- The warning that is due for a token, judged by the text around it. -/
def dueAt? (style : SpacesStyle) (filename : Text) (s : TokenSite) : Option Diagnostic :=
  if s.token.kind.isOperatorLike then
    (Side.all.find? fun side =>
      side.lists style s.token.value && side.isViolated s.before s.after).map fun side =>
      .warning .spacesStyle (side.message s.token.value) filename (s.before.count '\n')
  else none

theorem warning?_rules {s : TokenSite} (h : s.IsIn m.text) :
    warning? m (rules style) s.token = dueAt? style m.filename s := by
  have hline : s.token.span.start.lineIndex = s.before.count '\n' := by
    rw [h.span_eq]
    exact Text.lineIndex_advance_origin s.before
  simp only [warning?, dueAt?, firstBroken?_rules, isBroken_neighbour? h, Option.map_map, hline]
  rfl

/-- Of an accepted text the check reports the operators and words for which a listed side is
violated by the bytes next to them, in the order of the tokens, each once, for the first such side,
and in the line where the token begins. -/
theorem check_violated {text filename : Text} (hm : Model.ofText text filename = .ok m)
    (style : SpacesStyle) : ∃ sites : List TokenSite,
      sites.map (·.token) = m.tokens ∧ (∀ s ∈ sites, s.IsIn text) ∧
      check (rules style) m = sites.filterMap (dueAt? style filename) := by
  obtain ⟨t, ht, -, rfl⟩ := Model.ofText_eq_ok_iff.1 hm
  obtain ⟨sites, hmap, hin⟩ := Tree.exists_tokenSites t
  have hcheck : check (rules style) (Model.ofTree t filename) =
      sites.filterMap (dueAt? style filename) := by
    rw [check, show (Model.ofTree t filename).tokens = sites.map (·.token) from hmap.symm,
      List.filterMap_map]
    refine List.filterMap_congr ?_
    intro s hs
    exact warning?_rules (hin s hs)
  rw [Tree.text_of_parse? ht] at hin
  exact ⟨sites, hmap, hin, hcheck⟩

/-- An operator that is to have a space before it, none before it and one behind it is reported
once. -/
theorem check_violated_plus :
    let style : SpacesStyle := { before := [['+']], noBefore := [['+']], after := [['+']] }
    ∃ m, Model.ofText ['a', '+', 'b'] [] = .ok m ∧
      check (rules style) m = [.warning .spacesStyle (Side.before.message ['+']) [] 0] ∧
      ∃ sites : List TokenSite, sites.map (·.token) = m.tokens ∧
        (∀ s ∈ sites, s.IsIn ['a', '+', 'b']) ∧
        check (rules style) m = sites.filterMap (dueAt? style []) := by
  intro style
  have hrules : rules style = [⟨['+'], .before⟩, ⟨['+'], .noBefore⟩, ⟨['+'], .after⟩] := by
    simp [style, rules, Side.all, Side.operators]
  refine ⟨_, rfl, ?_, check_violated rfl style⟩
  rw [hrules]
  rfl

end Spacing

end ScriptStyle
