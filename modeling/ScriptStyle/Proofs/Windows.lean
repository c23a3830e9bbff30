import ScriptStyle.Proofs.Density

/-!
# Empty lines and windows, one by one

The check for empty lines goes over the lines once and keeps a count. This gives what a look at
every line and at every window gives: first the lines that are empty like the one before, then the
beginnings of the windows that end before the last line and hold no empty line, each in the order of
the text and once.
-/

namespace ScriptStyle

/-- Line `i`, counted from zero, is there and holds nothing but white space. -/
def Model.IsBlankLine (m : Model) (i : Nat) : Prop :=
  ∃ l, m.line? i = some l ∧ ∀ c ∈ l, Characters.isWhiteSpace c

namespace EmptyLines

variable {width : Nat} {blank : List Bool} {m : Model}

/-! ## Reference scans -/

/-- The lines that are empty like the one before, found by a look at each line. -/
def scanDoubled (blank : List Bool) : List Nat :=
  (List.range blank.length).filter fun i =>
    1 ≤ i ∧ blank[i - 1]? = some true ∧ blank[i]? = some true

/-- The beginnings of the windows without an empty line, found by a look at each window that ends
before the last line. -/
def scanWindows (width : Nat) (blank : List Bool) : List Nat :=
  if 0 < width ∧ width < blank.length then
    (List.range (blank.length - width)).filter fun s => ∀ i < width, blank[s + i]? = some false
  else []

/-! ## Doubled lines -/

theorem doubledFrom_cons_cons (i : Nat) (a b : Bool) (rest : List Bool) :
    doubledFrom i (a :: b :: rest) =
      (if a && b then [i + 1] else []) ++ doubledFrom (i + 1) (b :: rest) := by
  rw [doubledFrom]
  split <;> rfl

theorem doubledFrom_eq (i : Nat) (blank : List Bool) :
    doubledFrom i blank = ((List.range (blank.length - 1)).filter fun k =>
      blank[k]? = some true ∧ blank[k + 1]? = some true).map (· + (i + 1)) := by
  induction blank generalizing i with
  | nil => rfl
  | cons a rest ih =>
    cases rest with
    | nil => rfl
    | cons b rest =>
      have hlen : (a :: b :: rest).length - 1 = (b :: rest).length - 1 + 1 := by simp
      have hfirst :
          decide ((a :: b :: rest)[0]? = some true ∧ (a :: b :: rest)[0 + 1]? = some true) =
            (a && b) := by
        cases a <;> cases b <;> rfl
      rw [doubledFrom_cons_cons, ih, hlen, filter_range_succ, List.map_append, List.map_map, hfirst]
      congr 1
      · cases a && b <;> simp
      · refine List.map_congr_left ?_
        intro k _
        show k + (i + 1 + 1) = k + 1 + (i + 1)
        omega

theorem doubled_eq_scan (blank : List Bool) : doubled blank = scanDoubled blank := by
  cases blank with
  | nil => rfl
  | cons a rest =>
    -- Line zero has no line before it, so the scan may begin with line one.
    rw [doubled, doubledFrom_eq, scanDoubled, List.length_cons, filter_range_succ, if_neg (by simp),
      List.nil_append, Nat.add_sub_cancel]
    simp

/-! ## Windows -/

theorem denseWindows_eq_scan (width : Nat) (blank : List Bool) :
    denseWindows width blank = scanWindows width blank := by
  rw [scanWindows]
  split
  next h =>
    rw [denseWindows_eq h.1]
    refine List.filter_congr ?_
    intro s hs
    have hs := List.mem_range.1 hs
    rw [Bool.eq_iff_iff, isClear_iff (by omega), decide_eq_true_iff]
    constructor
    · intro hcode i hi
      exact hcode (s + i) (by omega) (by omega)
    · intro hcode j hj hj'
      obtain ⟨i, rfl⟩ := Nat.exists_eq_add_of_le hj
      exact hcode i (by omega)
  next h =>
    have hskip : (decide (width = 0) || decide (blank.length ≤ width)) = true := by
      rw [Bool.or_eq_true, decide_eq_true_eq, decide_eq_true_eq]
      omega
    rw [denseWindows, if_pos hskip]

theorem pairwise_scanWindows (width : Nat) (blank : List Bool) :
    (scanWindows width blank).Pairwise (· < ·) := by
  rw [scanWindows]
  split
  · exact List.pairwise_lt_range.filter _
  · exact .nil

theorem pairwise_scanDoubled (blank : List Bool) : (scanDoubled blank).Pairwise (· < ·) :=
  List.pairwise_lt_range.filter _

/-! ## The check -/

theorem getElem?_flags_eq_true {i : Nat} : (flags m)[i]? = some true ↔ m.IsBlankLine i := by
  have hline : (flags m)[i]? = (m.line? i).map isEmptyLine := List.getElem?_map
  rw [hline, Option.map_eq_some_iff, Model.IsBlankLine]
  simp only [isEmptyLine, List.all_eq_true]

theorem mem_scanDoubled {i : Nat} :
    i ∈ scanDoubled (flags m) ↔ 1 ≤ i ∧ m.IsBlankLine (i - 1) ∧ m.IsBlankLine i := by
  rw [scanDoubled, List.mem_filter, List.mem_range, decide_eq_true_iff, getElem?_flags_eq_true,
    getElem?_flags_eq_true]
  refine and_iff_right_of_imp ?_
  rintro ⟨-, -, h⟩
  have hsome := getElem?_flags_eq_true.2 h
  exact (List.getElem?_eq_some_iff.1 hsome).1

/-- The windows that the slide finds are those that a look at each window finds, in this order, for
every list of flags and every width. The check reports first the lines `i ≥ 1` that are blank like
line `i - 1`, in increasing order, and then these windows. -/
theorem check_eq_scan (width : Nat) (m : Model) :
    (∀ blank, denseWindows width blank = scanWindows width blank ∧
      (scanWindows width blank).Pairwise (· < ·)) ∧
    ∃ extra : List Nat, extra.Pairwise (· < ·) ∧
      (∀ i, i ∈ extra ↔ 1 ≤ i ∧ m.IsBlankLine (i - 1) ∧ m.IsBlankLine i) ∧
      check width m = extra.map (.warning .emptyLines extraMessage m.filename ·) ++
        (scanWindows width (flags m)).map (.warning .emptyLines denseMessage m.filename ·) := by
  refine ⟨fun blank => ⟨denseWindows_eq_scan width blank, pairwise_scanWindows width blank⟩, ?_⟩
  refine ⟨scanDoubled (flags m), pairwise_scanDoubled _, fun i => mem_scanDoubled, ?_⟩
  rw [check, doubled_eq_scan, denseWindows_eq_scan]

/-- Lines two and three are empty behind an empty line, and only the first two lines of code make a
window that ends before the last line. -/
example : scanDoubled [false, false, true, true, true, false, false] = [3, 4] ∧
    scanWindows 2 [false, false, true, true, true, false, false] = [0] := by decide

end EmptyLines

end ScriptStyle
