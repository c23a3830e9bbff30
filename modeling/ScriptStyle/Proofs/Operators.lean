import ScriptStyle.Proofs.Spacing

/-!
# The lists of operators in the settings

The settings list operators for each of four sides. The table of rules takes the sides in a fixed
order and the operators of a side longest first, so a list shows in the table with its order and its
repetitions. The warnings show neither: a rule speaks of one operator only, so what a token is
reported for depends on the sides that list it (`firstBroken?_rules`).

`rules_table_check_iff` puts the two together, and says that nothing less than the sets of operators
would do: a listed operator is reported where it has the neighbour that its side objects to, and
`probe` is a source where no other side objects.
-/

namespace ScriptStyle

namespace Spacing

open Text (byteSize)

variable {style style' : SpacesStyle}

/-! ## The table of rules -/

/-- The operators of a list, the longest first and those of one length in the order of the list. -/
structure IsLongestFirst (sorted listed : List Text) : Prop where
  /-- None is lost, and none is repeated more often than in the list. -/
  perm : sorted.Perm listed
  /-- None is longer than one before it. -/
  descending : sorted.Pairwise fun a b => byteSize b ≤ byteSize a
  /-- Those of one length keep their order. -/
  stable : ∀ n, sorted.filter (byteSize · = n) = listed.filter (byteSize · = n)

theorem isLongestFirst_mergeSort (listed : List Text) :
    IsLongestFirst (listed.mergeSort fun a b => byteSize b ≤ byteSize a) listed := by
  have htrans : ∀ a b c : Text, decide (byteSize b ≤ byteSize a) = true →
      decide (byteSize c ≤ byteSize b) = true → decide (byteSize c ≤ byteSize a) = true := by
    intro a b c hab hbc
    rw [decide_eq_true_iff] at hab hbc ⊢
    omega
  have htotal : ∀ a b : Text,
      (decide (byteSize b ≤ byteSize a) || decide (byteSize a ≤ byteSize b)) = true := by
    intro a b
    rw [Bool.or_eq_true, decide_eq_true_iff, decide_eq_true_iff]
    omega
  have hperm := List.mergeSort_perm listed fun a b => byteSize b ≤ byteSize a
  refine ⟨hperm, (List.pairwise_mergeSort htrans htotal listed).imp of_decide_eq_true, ?_⟩
  intro n
  -- Operators of one length are sorted as they stand, so the sorted list has them in this order.
  have hsorted : (listed.filter (byteSize · = n)).Pairwise
      fun a b => decide (byteSize b ≤ byteSize a) = true := by
    refine List.pairwise_of_forall_mem_list ?_
    intro a ha b hb
    have ha := of_decide_eq_true (List.mem_filter.1 ha).2
    have hb := of_decide_eq_true (List.mem_filter.1 hb).2
    rw [decide_eq_true_iff]
    omega
  have hsub : (listed.filter (byteSize · = n)).Sublist
      ((listed.mergeSort fun a b => byteSize b ≤ byteSize a).filter (byteSize · = n)) := by
    have := (List.sublist_mergeSort htrans htotal hsorted List.filter_sublist).filter
      (byteSize · = n)
    rwa [List.filter_filter, List.filter_congr (q := (byteSize · = n)) (by simp)] at this
  exact (hsub.eq_of_length (hperm.filter _).length_eq.symm).symm

/-! ## What the rules depend on -/

/-- Settings that list the same operators for each side have the same warnings. -/
theorem check_congr_of_lists
    (h : ∀ (side : Side) (operator : Text),
      operator ∈ side.operators style' ↔ operator ∈ side.operators style)
    (m : Model) : check (rules style') m = check (rules style) m := by
  have hlists (side : Side) (operator : Text) :
      side.lists style' operator = side.lists style operator := by
    rw [Bool.eq_iff_iff, Side.lists_iff, Side.lists_iff]
    exact h side operator
  have hbroken (t : Token) :
      firstBroken? m (rules style') t = firstBroken? m (rules style) t := by
    rw [firstBroken?_rules, firstBroken?_rules]
    simp only [hlists]
  unfold check warning?
  simp only [hbroken]

/-- A source with one operator. Next to it stands one byte, to which only the given side objects. -/
def probe (side : Side) (operator : Text) : Model where
  text := if side.wantsSpace then ['x'] else [' ']
  program := []
  tokens :=
    let place : Position := if side.looksBefore then ⟨1, 1⟩ else ⟨1, 0⟩
    [⟨operator, .punctuator, ⟨place, place⟩⟩]
  filename := []

theorem isBroken_probe {side : Side} {operator : Text} {t : Token}
    (ht : (probe side operator).tokens = [t]) (other : Side) :
    isBroken other (neighbour? (probe side operator) t other) = decide (other = side) := by
  cases ht
  cases side <;> cases other <;> rfl

/-- The one operator of the source is reported if and only if it is listed for the side. -/
theorem check_probe (side : Side) (operator : Text) :
    check (rules style) (probe side operator) ≠ [] ↔ operator ∈ side.operators style := by
  obtain ⟨t, ht, hkind, hvalue⟩ : ∃ t, (probe side operator).tokens = [t] ∧
      t.kind.isOperatorLike = true ∧ t.value = operator := ⟨_, rfl, rfl, rfl⟩
  have hbroken := isBroken_probe ht
  have hsome : (firstBroken? (probe side operator) (rules style) t).isSome = true ↔
      operator ∈ side.operators style := by
    rw [firstBroken?_rules, Option.isSome_map, List.find?_isSome]
    simp only [hbroken, hvalue, Bool.and_eq_true, Side.lists_iff, decide_eq_true_iff]
    constructor
    · rintro ⟨other, -, hmem, rfl⟩
      exact hmem
    · intro hmem
      refine ⟨side, ?_, hmem, rfl⟩
      cases side <;> decide
  rw [check, ht, List.filterMap_cons, List.filterMap_nil, warning?, if_pos hkind, ← hsome]
  cases firstBroken? (probe side operator) (rules style) t <;> simp

/-- The table of rules has the four sides one after the other, each with its operators sorted by
their length, and two settings have the same warnings about every source if and only if they list
the same operators for each side. -/
theorem rules_table_check_iff (style : SpacesStyle) :
    (∃ before noBefore after noAfter : List Text,
      IsLongestFirst before style.before ∧ IsLongestFirst noBefore style.noBefore ∧
      IsLongestFirst after style.after ∧ IsLongestFirst noAfter style.noAfter ∧
      rules style = before.map (⟨·, .before⟩) ++ noBefore.map (⟨·, .noBefore⟩) ++
        after.map (⟨·, .after⟩) ++ noAfter.map (⟨·, .noAfter⟩)) ∧
    ∀ style', (∀ m, check (rules style') m = check (rules style) m) ↔
      ∀ (side : Side) (operator : Text),
        operator ∈ side.operators style' ↔ operator ∈ side.operators style := by
  constructor
  · refine ⟨_, _, _, _, isLongestFirst_mergeSort _, isLongestFirst_mergeSort _,
      isLongestFirst_mergeSort _, isLongestFirst_mergeSort _, ?_⟩
    simp [rules, Side.all, Side.operators]
  · intro style'
    constructor
    · intro h side operator
      rw [← check_probe, ← check_probe, h]
    · intro h m
      exact check_congr_of_lists h m

end Spacing

end ScriptStyle
