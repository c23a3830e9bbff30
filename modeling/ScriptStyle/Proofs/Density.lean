import ScriptStyle.Lint.EmptyLines

/-!
# Code without empty lines

The check for code without empty lines slides a window over the lines and keeps the number of empty
lines in it. `denseWindows_eq` says that this finds the windows without an empty line among those
that end before the last line of the text. A window without an empty line lies in one run of code,
so the warnings can be counted run by run.

The window that ends with the last line of the text is not looked at. A run that is followed by a
line is therefore reported once more often than a run of the same length at the end of the text:
`count_dense` gives both numbers, and says when a run of so many lines is reported once for each
line above the width.
-/

namespace ScriptStyle.EmptyLines

variable {width start length : Nat} {blank : List Bool}

/-! ## The sliding window -/

/-- No empty line stands in the window that begins with line `i`. -/
def isClear (width : Nat) (blank : List Bool) (i : Nat) : Bool :=
  ((blank.drop i).take width).count true = 0

theorem slide_cons (start blanks : Nat) (left entered : Bool) (rest : List (Bool × Bool)) :
    slide start blanks ((left, entered) :: rest) =
      (if blanks + entered.toNat - left.toNat = 0 then [start] else []) ++
        slide (start + 1) (blanks + entered.toNat - left.toNat) rest := by
  simp only [slide]
  split <;> rfl

theorem filter_range_succ (p : Nat → Bool) (n : Nat) :
    (List.range (n + 1)).filter p =
      (if p 0 then [0] else []) ++ ((List.range n).filter fun i => p (i + 1)).map (· + 1) := by
  rw [List.range_succ_eq_map, List.filter_cons, List.filter_map]
  split <;> rfl

/-- Behind the last window that is looked at no line enters any more. -/
theorem slidePairs_of_length_le {a : Bool} {rest : List Bool} (hlen : rest.length ≤ width) :
    ((a :: rest).zip ((a :: rest).drop width)).take ((a :: rest).length - (width + 1)) = [] := by
  have hzero : (a :: rest).length - (width + 1) = 0 := by
    rw [List.length_cons]
    omega
  rw [hzero, List.take_zero]

/-- From a window to the next one its first line leaves, and the line behind it enters. -/
theorem slidePairs_cons {w : Nat} {a : Bool} {rest : List Bool} (hlen : w + 1 < rest.length) :
    ((a :: rest).zip ((a :: rest).drop (w + 1))).take ((a :: rest).length - (w + 1 + 1)) =
      (a, rest[w]) :: (rest.zip (rest.drop (w + 1))).take (rest.length - (w + 1 + 1)) := by
  have hsucc : (a :: rest).length - (w + 1 + 1) = rest.length - (w + 1 + 1) + 1 := by
    rw [List.length_cons]
    omega
  rw [hsucc, List.drop_succ_cons, List.drop_eq_getElem_cons (Nat.lt_of_succ_lt hlen),
    List.zip_cons_cons, List.take_succ_cons]

/-- Two windows that follow one another differ in the line that leaves and the line that enters. -/
theorem count_window_succ {w : Nat} {a : Bool} {rest : List Bool} (hw : w < rest.length) :
    ((a :: rest).take (w + 1)).count true + rest[w].toNat =
      (rest.take (w + 1)).count true + a.toNat := by
  rw [List.take_succ_cons, List.take_add_one, List.getElem?_eq_getElem hw, List.count_cons,
    List.count_append]
  cases a <;> cases rest[w] <;> simp

/-- The windows that a slide meets are those behind the one whose empty lines it was given. -/
theorem slide_eq (hwidth : 0 < width) (start : Nat) (blank : List Bool) :
    slide start ((blank.take width).count true)
      ((blank.zip (blank.drop width)).take (blank.length - (width + 1))) =
      ((List.range (blank.length - (width + 1))).filter fun i =>
        isClear width blank (i + 1)).map (· + start) := by
  obtain ⟨w, rfl⟩ : ∃ w, width = w + 1 := ⟨width - 1, by omega⟩
  induction blank generalizing start with
  | nil => simp [slide]
  | cons a rest ih =>
    by_cases hlen : rest.length ≤ w + 1
    · have hzero : (a :: rest).length - (w + 1 + 1) = 0 := by
        rw [List.length_cons]
        omega
      rw [slidePairs_of_length_le hlen, hzero]
      rfl
    · have hlen : w + 1 < rest.length := Nat.lt_of_not_le hlen
      have hsucc : (a :: rest).length - (w + 1 + 1) = rest.length - (w + 1 + 1) + 1 := by
        rw [List.length_cons]
        omega
      have hcount : ((a :: rest).take (w + 1)).count true + rest[w].toNat - a.toNat =
          (rest.take (w + 1)).count true :=
        Nat.sub_eq_of_eq_add (count_window_succ (Nat.lt_of_succ_lt hlen))
      have hfirst : isClear (w + 1) (a :: rest) (0 + 1) =
          decide ((rest.take (w + 1)).count true = 0) := rfl
      rw [slidePairs_cons hlen, slide_cons, hcount, ih, hsucc, filter_range_succ, List.map_append,
        List.map_map, hfirst]
      congr 1
      · split <;> simp_all
      · refine List.map_congr_left ?_
        intro i _
        show i + (start + 1) = i + 1 + start
        omega

/-- The check finds the windows without an empty line that end before the last line. -/
theorem denseWindows_eq (hwidth : 0 < width) (blank : List Bool) :
    denseWindows width blank =
      (List.range (blank.length - width)).filter (isClear width blank) := by
  rw [denseWindows]
  by_cases hlen : blank.length ≤ width
  · rw [if_pos (by simp [hlen]), Nat.sub_eq_zero_of_le hlen]
    rfl
  · have hsucc : blank.length - width = blank.length - (width + 1) + 1 := by omega
    have hcond : ¬ (decide (width = 0) || decide (blank.length ≤ width)) = true := by
      rw [Bool.or_eq_true, decide_eq_true_eq, decide_eq_true_eq]
      omega
    have hfirst : isClear width blank 0 = decide ((blank.take width).count true = 0) := rfl
    rw [if_neg hcond, hsucc, filter_range_succ, hfirst]
    dsimp only
    rw [slide_eq hwidth]
    by_cases hclear : (blank.take width).count true = 0
    · rw [if_pos hclear, if_pos (decide_eq_true hclear)]
      rfl
    · rw [if_neg hclear, if_neg (mt of_decide_eq_true hclear)]
      rfl

theorem isClear_iff {i : Nat} (hi : i + width ≤ blank.length) :
    isClear width blank i ↔ ∀ j, i ≤ j → j < i + width → blank[j]? = some false := by
  have hget (k : Nat) (hk : k < width) : ((blank.drop i).take width)[k]? = blank[i + k]? := by
    rw [List.getElem?_take_of_lt hk, List.getElem?_drop]
  rw [isClear, decide_eq_true_iff, List.count_eq_zero]
  constructor
  · intro hclear j hj hj'
    obtain ⟨k, rfl⟩ := Nat.exists_eq_add_of_le hj
    have hlt : i + k < blank.length := by omega
    cases hb : blank[i + k] with
    | false => rw [List.getElem?_eq_getElem hlt, hb]
    | true =>
      have htrue : ((blank.drop i).take width)[k]? = some true := by
        rw [hget k (by omega), List.getElem?_eq_getElem hlt, hb]
      exact absurd (List.mem_of_getElem? htrue) hclear
  · intro hcode hmem
    obtain ⟨k, hk⟩ := List.mem_iff_getElem?.1 hmem
    have hlt : k < width := by
      have := (List.getElem?_eq_some_iff.1 hk).1
      rw [List.length_take] at this
      omega
    rw [hget k hlt, hcode _ (by omega) (by omega)] at hk
    cases hk

/-! ## Runs of code -/

/-- Lines that are not empty and follow one another, as many as there are. -/
structure IsRun (blank : List Bool) (start length : Nat) : Prop where
  /-- There is a line. -/
  pos : 0 < length
  /-- None of the lines is empty. -/
  code : ∀ j, start ≤ j → j < start + length → blank[j]? = some false
  /-- No line of code comes before them. -/
  before : ∀ j, start = j + 1 → blank[j]? ≠ some false
  /-- No line of code comes behind them. -/
  behind : blank[start + length]? ≠ some false

/-- A window without an empty line that begins in a run ends in it. -/
theorem IsRun.isClear_iff (h : IsRun blank start length) {i : Nat} (hi : i + width ≤ blank.length)
    (hstart : start ≤ i) (hstop : i < start + length) :
    isClear width blank i ↔ i + width ≤ start + length := by
  rw [EmptyLines.isClear_iff hi]
  constructor
  · intro hclear
    refine Nat.le_of_not_lt ?_
    intro hlt
    exact h.behind (hclear _ (by omega) (by omega))
  · intro hle j hj hj'
    exact h.code j (by omega) (by omega)

theorem exists_start {i : Nat} (hi : blank[i]? = some false) :
    ∃ start, start ≤ i ∧ (∀ j, start ≤ j → j ≤ i → blank[j]? = some false) ∧
      ∀ j, start = j + 1 → blank[j]? ≠ some false := by
  induction i with
  | zero =>
    refine ⟨0, Nat.le_refl _, ?_, by simp⟩
    intro j _ hj
    rwa [Nat.le_zero.1 hj]
  | succ i ih =>
    by_cases hprev : blank[i]? = some false
    · obtain ⟨start, hle, hcode, hbefore⟩ := ih hprev
      refine ⟨start, by omega, ?_, hbefore⟩
      intro j hj hj'
      rcases Nat.lt_or_eq_of_le hj' with hlt | rfl
      · exact hcode j hj (by omega)
      · exact hi
    · refine ⟨i + 1, Nat.le_refl _, ?_, ?_⟩
      · intro j hj hj'
        rwa [Nat.le_antisymm hj' hj]
      · rintro j hj
        rwa [← Nat.succ.inj hj]

theorem exists_stop {i : Nat} (hi : blank[i]? = some false) :
    ∃ stop, i < stop ∧ (∀ j, i ≤ j → j < stop → blank[j]? = some false) ∧
      blank[stop]? ≠ some false := by
  induction h : blank.length - i generalizing i with
  | zero =>
    have := (List.getElem?_eq_some_iff.1 hi).1
    omega
  | succ k ih =>
    by_cases hnext : blank[i + 1]? = some false
    · obtain ⟨stop, hlt, hcode, hbehind⟩ := ih hnext (by omega)
      refine ⟨stop, by omega, ?_, hbehind⟩
      intro j hj hj'
      rcases Nat.lt_or_eq_of_le hj with hlt | rfl
      · exact hcode j hlt hj'
      · exact hi
    · refine ⟨i + 1, Nat.lt_succ_self _, ?_, hnext⟩
      intro j hj hj'
      rwa [show j = i by omega]

/-- Every line of code is in a run. -/
theorem exists_isRun {i : Nat} (hi : blank[i]? = some false) :
    ∃ start length, IsRun blank start length ∧ start ≤ i ∧ i < start + length := by
  obtain ⟨start, hstart, hcode, hbefore⟩ := exists_start hi
  obtain ⟨stop, hstop, hcode', hbehind⟩ := exists_stop hi
  have hsum : start + (stop - start) = stop := by omega
  refine ⟨start, stop - start, ⟨by omega, ?_, hbefore, ?_⟩, hstart, by omega⟩
  · intro j hj hj'
    rcases Nat.le_total j i with hle | hle
    · exact hcode j hj hle
    · exact hcode' j hle (by omega)
  · rwa [hsum]

/-- So many numbers below `k` are in an interval. -/
theorem length_filter_range (a b k : Nat) :
    ((List.range k).filter fun i => a ≤ i ∧ i < b).length = min b k - a := by
  induction k with
  | zero => simp
  | succ k ih =>
    rw [List.range_succ, List.filter_append, List.length_append, ih, List.filter_cons,
      List.filter_nil]
    by_cases hk : a ≤ k ∧ k < b
    · rw [if_pos (by simpa using hk), List.length_singleton]
      omega
    · rw [if_neg (by simpa using hk), List.length_nil]
      omega

/-! ## The warnings about code without empty lines -/

/-- The lines for which the check says that there is too much code. -/
def denseLines (width : Nat) (m : Model) : List Nat :=
  ((check width m).filter (·.message = denseMessage)).map (·.line)

/-- Of the lines of warnings that say the same, those with a message are all or none. -/
theorem map_line_filter (message other filename : Text) (is : List Nat) :
    ((is.map (Diagnostic.warning .emptyLines message filename ·)).filter (·.message = other)).map
      (·.line) = if message = other then is else [] := by
  split
  next h =>
    rw [List.filter_eq_self.2, List.map_map]
    · exact List.map_id _
    · intro d hd
      obtain ⟨i, -, rfl⟩ := List.mem_map.1 hd
      exact decide_eq_true h
  next h =>
    rw [List.map_eq_nil_iff, List.filter_map, List.map_eq_nil_iff, List.filter_eq_nil_iff]
    intro i _
    simpa [Diagnostic.warning] using h

theorem denseLines_eq (width : Nat) (m : Model) :
    denseLines width m = denseWindows width (flags m) := by
  have hne : extraMessage ≠ denseMessage := by decide
  rw [denseLines, check, List.filter_append, List.map_append, map_line_filter, map_line_filter,
    if_neg hne, if_pos rfl, List.nil_append]

/-- The lines with such a warning that belong to a run. -/
theorem length_denseLines (hwidth : 0 < width) {m : Model} (h : IsRun (flags m) start length) :
    ((denseLines width m).filter fun i => start ≤ i ∧ i < start + length).length =
      if start + length = m.lines.length then length - width else length + 1 - width := by
  have hlen : (flags m).length = m.lines.length := List.length_map _
  have hstop : start + length ≤ m.lines.length := by
    have hpos := h.pos
    have := (List.getElem?_eq_some_iff.1 (h.code (start + length - 1) (by omega) (by omega))).1
    omega
  have hwindow : ∀ i ∈ List.range ((flags m).length - width),
      (decide (start ≤ i ∧ i < start + length) && isClear width (flags m) i) =
        decide (start ≤ i ∧ i < start + length + 1 - width) := by
    intro i hi
    have hi := List.mem_range.1 hi
    by_cases hin : start ≤ i ∧ i < start + length
    · have := h.isClear_iff (show i + width ≤ (flags m).length by omega) hin.1 hin.2
      rw [decide_eq_true hin, Bool.true_and, Bool.eq_iff_iff, this, decide_eq_true_iff]
      omega
    · rw [decide_eq_false hin, Bool.false_and, eq_comm, decide_eq_false_iff_not]
      omega
  rw [denseLines_eq, denseWindows_eq hwidth, List.filter_filter, List.filter_congr hwindow,
    length_filter_range, hlen]
  split <;> omega

/-- Every such warning belongs to a run. -/
theorem exists_isRun_of_mem (hwidth : 0 < width) {m : Model} {i : Nat}
    (hi : i ∈ denseLines width m) :
    ∃ start length, IsRun (flags m) start length ∧ start ≤ i ∧ i < start + length := by
  rw [denseLines_eq, denseWindows_eq hwidth] at hi
  obtain ⟨hrange, hclear⟩ := List.mem_filter.1 hi
  have hlt := List.mem_range.1 hrange
  exact exists_isRun ((isClear_iff (by omega)).1 hclear i (Nat.le_refl _) (by omega))

/-- There is no such warning if and only if all runs are shorter than the width, but for one of just
this length at the end of the text. -/
theorem denseLines_eq_nil (hwidth : 0 < width) (m : Model) :
    denseLines width m = [] ↔ ∀ start length, IsRun (flags m) start length →
      length < width ∨ length = width ∧ start + length = m.lines.length := by
  constructor
  · intro hnil start length hrun
    have hcount := length_denseLines hwidth hrun
    rw [hnil, List.filter_nil, List.length_nil] at hcount
    split at hcount <;> omega
  · intro hshort
    rw [List.eq_nil_iff_forall_not_mem]
    intro i hi
    obtain ⟨start, length, hrun, hin⟩ := exists_isRun_of_mem hwidth hi
    have hcount := length_denseLines hwidth hrun
    have hmem : i ∈ (denseLines width m).filter fun i => start ≤ i ∧ i < start + length :=
      List.mem_filter.2 ⟨hi, decide_eq_true hin⟩
    have hpos := List.length_pos_of_mem hmem
    have := hshort start length hrun
    split at hcount <;> omega

/-- For a positive width every warning about too much code belongs to a run of code. A run has one
warning for each line above the width if the text ends with it or if it is shorter than the width;
every other run has one more. -/
theorem count_dense (hwidth : 0 < width) (m : Model) :
    (∀ i ∈ denseLines width m, ∃ start length, IsRun (flags m) start length ∧ start ≤ i ∧
      i < start + length) ∧
    (∀ start length, IsRun (flags m) start length →
      ((denseLines width m).filter fun i => start ≤ i ∧ i < start + length).length =
        (if start + length = m.lines.length then length - width else length + 1 - width) ∧
      (((denseLines width m).filter fun i => start ≤ i ∧ i < start + length).length =
        length - width ↔ start + length = m.lines.length ∨ length < width)) ∧
    (denseLines width m = [] ↔ ∀ start length, IsRun (flags m) start length →
      length < width ∨ length = width ∧ start + length = m.lines.length) := by
  refine ⟨fun i => exists_isRun_of_mem hwidth, ?_, denseLines_eq_nil hwidth m⟩
  intro start length hrun
  have hcount := length_denseLines hwidth hrun
  refine ⟨hcount, ?_⟩
  rw [hcount]
  split <;> omega

/-- Three lines of code, each with its line feed. -/
def threeLines : Model where
  text := ['a', '(', ')', ';', '\n', 'b', '(', ')', ';', '\n', 'c', '(', ')', ';', '\n']
  program := []
  tokens := []
  filename := Model.noFilename

theorem isRun_threeLines : IsRun (flags threeLines) 0 3 where
  pos := by decide
  code := by
    intro j _ hj
    have hflags : flags threeLines = [false, false, false, true] := by decide
    rw [hflags]
    rcases j with _ | _ | _ | j <;> first | rfl | omega
  before := by
    intro j hj
    cases hj
  behind := by decide

/-- The three lines are one run that is not at the end of the text. -/
theorem count_dense_threeLines :
    ((denseLines 3 threeLines).filter fun i => 0 ≤ i ∧ i < 0 + 3).length = 3 + 1 - 3 :=
  ((count_dense (by decide) threeLines).2.1 0 3 isRun_threeLines).1

/-- A run of three lines is reported for a width of three. -/
theorem dense_threeLines : IsRun (flags threeLines) 0 3 ∧
    check 3 threeLines = [.warning .emptyLines denseMessage Model.noFilename 0] :=
  ⟨isRun_threeLines, by decide⟩

end ScriptStyle.EmptyLines
