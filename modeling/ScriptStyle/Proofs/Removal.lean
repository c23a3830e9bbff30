import Mathlib.Data.List.Destutter
import ScriptStyle.Proofs.Places
import ScriptStyle.Proofs.Windows

/-!
# Removing the empty lines that are too many

Whoever follows the warnings about extra empty lines deletes the lines that they name. What is left
is the text with every group of empty lines reduced to its first line, so there is nothing more of
this kind to report, and the code is as it was.

The number of windows without an empty line stays the same as well. A window lies within one run of
code and is looked at only if a line follows it; runs keep their lengths, and behind a run there is
still a line if there was one (`isOpen_destutter'`).
-/

namespace ScriptStyle

namespace Text

/-! ## Lines joined -/

/-- Lines with a line feed between each two of them. -/
def joined (ls : List Text) : Text := ['\n'].intercalate ls

theorem lines_eq_splitOn (t : Text) : lines t = t.splitOn '\n' := by
  induction t with
  | nil => rfl
  | cons c cs ih =>
    rw [List.splitOn, List.splitOnP_cons_eq_if_modifyHead, ← List.splitOn, ← ih]
    by_cases hc : c = '\n'
    · rw [if_pos (by simpa using hc), hc]
      rfl
    · rw [if_neg (by simpa using hc), lines_cons_of_ne hc]

theorem not_mem_of_mem_lines {l t : Text} (hl : l ∈ lines t) : '\n' ∉ l := by
  induction t generalizing l with
  | nil =>
    obtain rfl := List.mem_singleton.1 hl
    exact List.not_mem_nil
  | cons c cs ih =>
    by_cases hc : c = '\n'
    · rw [lines, if_pos hc] at hl
      rcases List.mem_cons.1 hl with rfl | hl
      · exact List.not_mem_nil
      · exact ih hl
    · rw [lines_cons_of_ne hc] at hl
      cases hlines : lines cs with
      | nil => exact absurd hlines (lines_ne_nil cs)
      | cons k ls =>
        rw [hlines] at hl ih
        rcases List.mem_cons.1 hl with rfl | hl
        · exact List.not_mem_cons_of_ne_of_not_mem (Ne.symm hc) (ih (List.mem_cons_self ..))
        · exact ih (List.mem_cons_of_mem k hl)

theorem lines_joined {ls : List Text} (hls : ∀ l ∈ ls, '\n' ∉ l) (hne : ls ≠ []) :
    lines (joined ls) = ls := by
  rw [lines_eq_splitOn]
  exact List.splitOn_intercalate '\n' hls hne

end Text

/-- The source without some of its lines, which are counted from zero. -/
def Model.without (m : Model) (gone : List Nat) : Model :=
  { m with text := .joined ((m.lines.zipIdx.filter fun l => l.2 ∉ gone).map (·.1)) }

namespace EmptyLines

variable {width : Nat}

/-! ## Warnings and their lines -/

/-- The lines of which the check says that they are empty lines too many. -/
def extraLines (width : Nat) (m : Model) : List Nat :=
  ((check width m).filter (·.message = extraMessage)).map (·.line)

/-- The source without these lines. -/
def repaired (width : Nat) (m : Model) : Model := m.without (extraLines width m)

theorem extraLines_eq (width : Nat) (m : Model) : extraLines width m = doubled (flags m) := by
  have hne : denseMessage ≠ extraMessage := by decide
  rw [extraLines, check, List.filter_append, List.map_append, map_line_filter, map_line_filter,
    if_pos rfl, if_neg hne, List.append_nil]

/-! ## Groups of empty lines -/

/-- Two lines that are not both empty. -/
def Apart (k l : Text) : Prop := ¬ (isEmptyLine k = true ∧ isEmptyLine l = true)

/-- Two flags of lines that are not both empty. -/
def FlagsApart (a b : Bool) : Prop := ¬ (a = true ∧ b = true)

instance : DecidableRel Apart := fun _ _ => inferInstanceAs (Decidable (¬ _))

instance : DecidableRel FlagsApart := fun _ _ => inferInstanceAs (Decidable (¬ _))

theorem lt_of_mem_doubledFrom {i j : Nat} {blank : List Bool} (h : j ∈ doubledFrom i blank) :
    i < j := by
  rw [doubledFrom_eq] at h
  obtain ⟨k, -, rfl⟩ := List.mem_map.1 h
  omega

/-- Behind a line, the lines that are not reported are those that `destutter'` keeps. -/
theorem cons_filter_doubledFrom (i : Nat) (k : Text) (ls : List Text) :
    k :: ((ls.zipIdx (i + 1)).filter fun l =>
      l.2 ∉ doubledFrom i ((k :: ls).map isEmptyLine)).map (·.1) = ls.destutter' Apart k := by
  induction ls generalizing i k with
  | nil => rfl
  | cons l ls ih =>
    -- No later line is named by the first two, and they alone decide about the second.
    have hlater : ((ls.zipIdx (i + 1 + 1)).filter fun x =>
          x.2 ∉ doubledFrom i ((k :: l :: ls).map isEmptyLine)) =
        (ls.zipIdx (i + 1 + 1)).filter fun x =>
          x.2 ∉ doubledFrom (i + 1) ((l :: ls).map isEmptyLine) := by
      refine List.filter_congr ?_
      intro x hx
      have hle := List.le_snd_of_mem_zipIdx hx
      have hx : x.2 ≠ i + 1 := by omega
      simp only [List.map_cons, doubledFrom_cons_cons, List.mem_append]
      split <;> simp [hx]
    have hsecond : i + 1 ∈ doubledFrom i ((k :: l :: ls).map isEmptyLine) ↔ ¬ Apart k l := by
      have hnot : i + 1 ∉ doubledFrom (i + 1) ((l :: ls).map isEmptyLine) := by
        intro hmem
        exact Nat.lt_irrefl _ (lt_of_mem_doubledFrom hmem)
      rw [List.map_cons, List.map_cons, doubledFrom_cons_cons, List.mem_append, Apart]
      rw [List.map_cons] at hnot
      simp [hnot]
    rw [List.zipIdx_cons, List.filter_cons, hlater]
    by_cases hapart : Apart k l
    · rw [if_pos (by simpa using mt hsecond.1 (not_not.2 hapart)),
        List.destutter'_cons_pos ls hapart, List.map_cons, ih]
    · rw [if_neg (by simpa using hsecond.2 hapart), List.destutter'_cons_neg ls hapart,
        ← ih (i + 1) k]
      have hflags : isEmptyLine l = isEmptyLine k := by
        obtain ⟨hk, hl⟩ := not_not.1 hapart
        rw [hk, hl]
      rw [List.map_cons, hflags, List.map_cons]

theorem lines_filter_extraLines (width : Nat) (m : Model) :
    (m.lines.zipIdx.filter fun l => l.2 ∉ extraLines width m).map (·.1) =
      m.lines.destutter Apart := by
  rw [extraLines_eq, doubled, flags]
  cases hlines : m.lines with
  | nil => exact absurd hlines (Text.lines_ne_nil m.text)
  | cons k ls =>
    have hfirst : 0 ∉ doubledFrom 0 ((k :: ls).map isEmptyLine) := by
      intro hmem
      exact Nat.lt_irrefl _ (lt_of_mem_doubledFrom hmem)
    rw [List.destutter_cons', ← cons_filter_doubledFrom 0 k ls, List.zipIdx_cons, List.filter_cons,
      if_pos (by simpa using hfirst), List.map_cons]

theorem lines_repaired (width : Nat) (m : Model) :
    (repaired width m).lines = m.lines.destutter Apart := by
  have hne : m.lines.destutter Apart ≠ [] := by
    rw [Ne, List.destutter_eq_nil]
    exact Text.lines_ne_nil m.text
  have hls : ∀ l ∈ m.lines.destutter Apart, '\n' ∉ l := by
    intro l hl
    exact Text.not_mem_of_mem_lines ((List.destutter_sublist Apart m.lines).subset hl)
  show Text.lines (.joined _) = _
  rw [lines_filter_extraLines]
  exact Text.lines_joined hls hne

theorem flags_repaired (width : Nat) (m : Model) :
    flags (repaired width m) = (flags m).destutter FlagsApart := by
  rw [flags, lines_repaired]
  exact List.map_destutter fun _ _ _ _ => Iff.rfl

/-! ## What is left -/

theorem filter_destutter' (k : Text) (ls : List Text) :
    (ls.destutter' Apart k).filter (!isEmptyLine ·) = (k :: ls).filter (!isEmptyLine ·) := by
  induction ls generalizing k with
  | nil => rfl
  | cons l ls ih =>
    by_cases hapart : Apart k l
    · simp only [List.destutter'_cons_pos ls hapart, List.filter_cons, ih]
    · obtain ⟨hk, hl⟩ := not_not.1 hapart
      rw [List.destutter'_cons_neg ls hapart, ih]
      simp [hk, hl]

theorem doubledFrom_eq_nil {blank : List Bool} (h : blank.IsChain FlagsApart) (i : Nat) :
    doubledFrom i blank = [] := by
  rw [doubledFrom_eq, List.map_eq_nil_iff, List.filter_eq_nil_iff]
  intro k _ hdoubled
  obtain ⟨hfirst, hsecond⟩ := of_decide_eq_true hdoubled
  obtain ⟨hlt, hsecond⟩ := List.getElem?_eq_some_iff.1 hsecond
  obtain ⟨_, hfirst⟩ := List.getElem?_eq_some_iff.1 hfirst
  exact List.isChain_iff_getElem.1 h k hlt ⟨hfirst, hsecond⟩

/-- In a group of empty lines all but the first are reported. -/
theorem mem_extraLines_iff {m : Model} {start length : Nat}
    (h : IsRun ((flags m).map (!·)) start length) {i : Nat} (hstart : start ≤ i)
    (hstop : i < start + length) : i ∈ extraLines width m ↔ i ≠ start := by
  have hflag (j : Nat) : ((flags m).map (!·))[j]? = some false ↔ (flags m)[j]? = some true := by
    rw [List.getElem?_map]
    cases (flags m)[j]? <;> simp
  have hempty (j : Nat) (hj : start ≤ j) (hj' : j < start + length) : (flags m)[j]? = some true :=
    (hflag j).1 (h.code j hj hj')
  rw [extraLines_eq, doubled_eq_scan, scanDoubled, List.mem_filter, List.mem_range,
    decide_eq_true_iff]
  constructor
  · rintro ⟨-, hpos, hbefore, -⟩ rfl
    exact h.before (i - 1) (by omega) ((hflag _).2 hbefore)
  · intro hne
    have hi := hempty i hstart hstop
    exact ⟨(List.getElem?_eq_some_iff.1 hi).1, by omega, hempty (i - 1) (by omega) (by omega), hi⟩

/-! ## The number of windows -/

/-- The lines begin with a window without an empty line that is not the last window. -/
def isOpen : Nat → List Bool → Bool
  | 0, blank => !blank.isEmpty
  | _ + 1, [] => false
  | width + 1, a :: blank => !a && isOpen width blank

theorem isOpen_eq (width : Nat) (blank : List Bool) :
    isOpen width blank = (decide (width < blank.length) && isClear width blank 0) := by
  induction width generalizing blank with
  | zero => cases blank <;> simp [isOpen, isClear]
  | succ width ih =>
    cases blank with
    | nil => simp [isOpen]
    | cons a blank =>
      rw [isOpen, ih]
      cases a <;> simp [isClear]

/-- How many windows there are is decided window by window, the first one first. -/
theorem length_denseWindows_cons (hwidth : 0 < width) (a : Bool) (blank : List Bool) :
    (denseWindows width (a :: blank)).length =
      (isOpen width (a :: blank)).toNat + (denseWindows width blank).length := by
  rw [denseWindows_eq hwidth, denseWindows_eq hwidth, isOpen_eq, List.length_cons]
  by_cases hlt : width < blank.length + 1
  · have hsucc : blank.length + 1 - width = blank.length - width + 1 := by omega
    rw [hsucc, filter_range_succ, List.length_append, List.length_map, decide_eq_true hlt,
      Bool.true_and]
    congr 1
    cases isClear width (a :: blank) 0 <;> rfl
  · have hzero : blank.length + 1 - width = 0 := by omega
    have hzero' : blank.length - width = 0 := by omega
    rw [hzero, hzero', decide_eq_false hlt]
    rfl

theorem isOpen_destutter' (width : Nat) (a : Bool) (blank : List Bool) :
    isOpen width (blank.destutter' FlagsApart a) = isOpen width (a :: blank) := by
  induction blank generalizing width a with
  | nil => rfl
  | cons b blank ih =>
    by_cases hapart : FlagsApart a b
    · rw [List.destutter'_cons_pos blank hapart]
      cases width with
      | zero => rfl
      | succ width => rw [isOpen, isOpen, ih]
    · obtain ⟨rfl, rfl⟩ := not_not.1 hapart
      rw [List.destutter'_cons_neg blank hapart, ih]
      cases width <;> rfl

theorem length_denseWindows_destutter' (width : Nat) (a : Bool) (blank : List Bool) :
    (denseWindows width (blank.destutter' FlagsApart a)).length =
      (denseWindows width (a :: blank)).length := by
  rcases Nat.eq_zero_or_pos width with rfl | hwidth
  · rfl
  induction blank generalizing a with
  | nil => rfl
  | cons b blank ih =>
    by_cases hapart : FlagsApart a b
    · have hopen := isOpen_destutter' width a (b :: blank)
      rw [List.destutter'_cons_pos blank hapart] at hopen ⊢
      rw [length_denseWindows_cons hwidth, hopen, ih, ← length_denseWindows_cons hwidth]
    · obtain ⟨rfl, rfl⟩ := not_not.1 hapart
      -- No window begins with the empty line that is left out.
      have hclosed : isOpen width (true :: true :: blank) = false := by
        obtain ⟨w, rfl⟩ : ∃ w, width = w + 1 := ⟨width - 1, by omega⟩
        rfl
      rw [List.destutter'_cons_neg blank hapart, ih,
        length_denseWindows_cons hwidth true (true :: blank), hclosed]
      exact (Nat.zero_add _).symm

/-- The source without the lines that are reported as empty lines too many. Its lines are the other
ones. It has the same lines of code, of each group of empty lines it has just the first, no empty
line is too many in it, and there are as many warnings about too much code as before. -/
theorem check_repaired (width : Nat) (m : Model) :
    (repaired width m).lines =
      (m.lines.zipIdx.filter fun l => l.2 ∉ extraLines width m).map (·.1) ∧
    (repaired width m).lines.filter (!isEmptyLine ·) = m.lines.filter (!isEmptyLine ·) ∧
    extraLines width (repaired width m) = [] ∧
    (∀ start length, IsRun ((flags m).map (!·)) start length →
      ∀ i, start ≤ i → i < start + length → (i ∈ extraLines width m ↔ i ≠ start)) ∧
    (denseLines width (repaired width m)).length = (denseLines width m).length := by
  have hlines := lines_repaired width m
  have hflags := flags_repaired width m
  refine ⟨?_, ?_, ?_, ?_, ?_⟩
  · rw [hlines, lines_filter_extraLines]
  · rw [hlines]
    cases m.lines with
    | nil => rfl
    | cons k ls => exact filter_destutter' k ls
  · have hchain : (flags (repaired width m)).IsChain FlagsApart := by
      rw [hflags]
      exact List.isChain_destutter FlagsApart (flags m)
    rw [extraLines_eq]
    exact doubledFrom_eq_nil hchain 0
  · intro start length hgroup i hstart hstop
    exact mem_extraLines_iff hgroup hstart hstop
  · rw [denseLines_eq, denseLines_eq, hflags]
    cases flags m with
    | nil => rfl
    | cons a blank => exact length_denseWindows_destutter' width a blank

end EmptyLines

end ScriptStyle
