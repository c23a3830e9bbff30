import ScriptStyle.Lint.Linter
import ScriptStyle.Proofs.Offsets
import ScriptStyle.Proofs.Windows

/-!
# Arithmetic on words

A number here has no limit, but lines, columns, widths and counts are meant to be kept in words of
64 bits. On words a sum may be too great, and nothing is less than zero. This module has the checks
in the arithmetic of words (`Checker.checkOnWords`), where such an operation fails and no warnings
come out. `Model.checks_onWords` says that this never happens and that the warnings are the same.

Lines and columns are only ever made smaller, by subtractions that are guarded, and a look-up behind
an end finds nothing. So nothing is asked of them, and they may lie outside of the text or
contradict each other. Only counts grow. They stay below the number of lines because of what is
known of the sliding window: the count is that of the empty lines in it, so a line that leaves has
been counted (`EmptyLines.slideOnWords_eq`). To the width one is added only if there are more lines
than it says.
-/

namespace ScriptStyle

/-- Why an operation on words has no result. -/
inductive WordError where
  /-- The result is too great for a word. -/
  | overflow
  /-- The result is less than zero. -/
  | underflow
deriving DecidableEq, Repr

namespace Word

/-- The sum of two words, if it is a word. -/
def add (a b : Nat) : Except WordError Nat :=
  if a + b < UInt64.size then .ok (a + b) else .error .overflow

/-- The difference of two words, if it is a word. -/
def sub (a b : Nat) : Except WordError Nat :=
  if b ≤ a then .ok (a - b) else .error .underflow

/-- The difference of two words, or nothing. -/
def sub? (a b : Nat) : Option Nat := if b ≤ a then some (a - b) else none

/-- The difference of two words, or zero. -/
def subOrZero (a b : Nat) : Nat := if b ≤ a then a - b else 0

variable {a b : Nat}

theorem add_eq (h : a + b < UInt64.size) : add a b = pure (a + b) := if_pos h

theorem sub_eq (h : b ≤ a) : sub a b = pure (a - b) := if_pos h

theorem subOrZero_eq (a b : Nat) : subOrZero a b = a - b := by
  rw [subOrZero]
  split <;> omega

theorem sub?_one (a : Nat) : sub? a 1 = if a = 0 then none else some (a - 1) := by
  cases a <;> simp [sub?]

/-- One more than the greatest word is not a word. -/
example : add (UInt64.size - 1) 1 = .error .overflow := by decide

end Word

/-! ## Bytes at places -/

namespace Model

variable (m : Model)

/-- The byte at a place, if the line is counted from one and so long. -/
def byteOnWords? (p : Position) : Option UInt8 := do
  let index ← Word.sub? p.line 1
  let line ← m.line? index
  line.bytes[p.column]?

/-- The byte before a place in its line. -/
def byteBeforeOnWords? (p : Position) : Option UInt8 := do
  let column ← Word.sub? p.column 1
  m.byteOnWords? ⟨p.line, column⟩

theorem byteOnWords?_eq (p : Position) : m.byteOnWords? p = m.byteAt? p := by
  rw [byteOnWords?, Word.sub?_one, byteAt?]
  split
  · rfl
  · simp only [Text.byteAt?_eq]
    rfl

theorem byteBeforeOnWords?_eq (p : Position) : m.byteBeforeOnWords? p =
    if p.column = 0 then none else m.byteAt? ⟨p.line, p.column - 1⟩ := by
  rw [byteBeforeOnWords?, Word.sub?_one]
  split
  · rfl
  · exact m.byteOnWords?_eq _

end Model

/-! ## Semicolons -/

namespace Semicolons

/-- The statement has no body and ends with something else than a semicolon. -/
def isMissingOnWords (m : Model) : Statement → Bool
  | .simple _ s => (m.byteBeforeOnWords? s.stop).any (· != semicolon)
  | .compound _ _ _ => false

/-- The warnings about missing semicolons. -/
def checkOnWords (m : Model) : List Diagnostic :=
  ((Statement.preorderAll m.program).filter (isMissingOnWords m)).map fun s =>
    .warning .missingSemicolons message m.filename s.span.start.line

theorem isMissingOnWords_eq (m : Model) : isMissingOnWords m = isMissing m := by
  funext s
  cases s with
  | simple kind s => rw [isMissingOnWords, m.byteBeforeOnWords?_eq, isMissing, lastByte?]
  | compound kind s body => rfl

theorem checkOnWords_eq (m : Model) : checkOnWords m = check m := by
  rw [checkOnWords, isMissingOnWords_eq, check]

end Semicolons

/-! ## Spaces -/

namespace Spacing

/-- The neighbour of a token on the side that a rule looks at. -/
def neighbourOnWords? (m : Model) (t : Token) (side : Side) : Option UInt8 :=
  if side.looksBefore then m.byteBeforeOnWords? t.span.start else m.byteOnWords? t.span.stop

/-- The warning about a token, if one is due. -/
def warningOnWords? (m : Model) (rules : List SpacingRule) (t : Token) : Option Diagnostic :=
  if t.kind.isOperatorLike then
    let broken? := rules.find? fun r =>
      r.operator = t.value && isBroken r.side (neighbourOnWords? m t r.side)
    broken?.map fun r => .warning .spacesStyle (r.side.message r.operator) m.filename
      (Word.subOrZero t.span.start.line 1)
  else none

/-- The warnings about spaces. -/
def checkOnWords (rules : List SpacingRule) (m : Model) : List Diagnostic :=
  m.tokens.filterMap (warningOnWords? m rules)

theorem neighbourOnWords?_eq (m : Model) (t : Token) (side : Side) :
    neighbourOnWords? m t side = neighbour? m t side := by
  rw [neighbourOnWords?, m.byteBeforeOnWords?_eq, m.byteOnWords?_eq]
  rfl

theorem warningOnWords?_eq (m : Model) (rules : List SpacingRule) (t : Token) :
    warningOnWords? m rules t = warning? m rules t := by
  simp only [warningOnWords?, neighbourOnWords?_eq, Word.subOrZero_eq]
  rfl

theorem checkOnWords_eq (rules : List SpacingRule) (m : Model) :
    checkOnWords rules m = check rules m :=
  List.filterMap_congr fun t _ => warningOnWords?_eq m rules t

end Spacing

/-! ## Empty lines -/

namespace EmptyLines

variable {width : Nat}

/-- The lines that are empty like the one before. The lines are counted one by one. -/
def doubledOnWords (i : Nat) : List Bool → Except WordError (List Nat)
  | a :: b :: rest => do
    let next ← Word.add i 1
    let found ← doubledOnWords next (b :: rest)
    return if a && b then next :: found else found
  | _ => return []

/-- The number of empty lines, counted one by one. -/
def tallyOnWords (count : Nat) : List Bool → Except WordError Nat
  | [] => return count
  | a :: rest => do
    let count ← Word.add count a.toNat
    tallyOnWords count rest

/-- The starts of the windows without empty lines that are met while the window slides. The start is
counted on before it is known whether there is one more pair, and the line that enters is counted
before the line that leaves is taken off. -/
def slideOnWords (start blanks : Nat) : List (Bool × Bool) → Except WordError (List Nat)
  | [] => do
    let _ ← Word.add start 1
    return []
  | (left, entered) :: rest => do
    let next ← Word.add start 1
    let more ← Word.add blanks entered.toNat
    let blanks ← Word.sub more left.toNat
    let found ← slideOnWords next blanks rest
    return if blanks = 0 then start :: found else found

/-- The first lines of all windows of a width without an empty line. -/
def denseWindowsOnWords (width : Nat) (blank : List Bool) : Except WordError (List Nat) :=
  if width = 0 || blank.length ≤ width then return []
  else do
    let blanks ← tallyOnWords 0 (blank.take width)
    let behind ← Word.add width 1
    let found ← slideOnWords 1 blanks
      ((blank.zip (blank.drop width)).take (Word.subOrZero blank.length behind))
    return if blanks = 0 then 0 :: found else found

/-- The warnings about empty lines. -/
def checkOnWords (width : Nat) (m : Model) : Except WordError (List Diagnostic) := do
  let extra ← doubledOnWords 0 (flags m)
  let dense ← denseWindowsOnWords width (flags m)
  return extra.map (.warning .emptyLines extraMessage m.filename ·) ++
    dense.map (.warning .emptyLines denseMessage m.filename ·)

theorem doubledOnWords_eq {i : Nat} {blank : List Bool} (h : i + blank.length < UInt64.size) :
    doubledOnWords i blank = pure (doubledFrom i blank) := by
  induction blank generalizing i with
  | nil => rfl
  | cons a rest ih =>
    cases rest with
    | nil => rfl
    | cons b rest =>
      rw [List.length_cons] at h
      rw [doubledOnWords, Word.add_eq (by omega), pure_bind, ih (by omega), pure_bind,
        doubledFrom_cons_cons]
      split <;> rfl

theorem tallyOnWords_eq {count : Nat} {blank : List Bool}
    (h : count + blank.length < UInt64.size) :
    tallyOnWords count blank = pure (count + blank.count true) := by
  induction blank generalizing count with
  | nil => rfl
  | cons a rest ih =>
    rw [List.length_cons] at h
    have ha := a.toNat_le
    have hcount : (a :: rest).count true = a.toNat + rest.count true := by
      cases a <;> simp [Nat.add_comm]
    rw [tallyOnWords, Word.add_eq (by omega), pure_bind, ih (by omega), hcount, Nat.add_assoc]

/-- On its way the window has the count of its empty lines. A line that leaves is one of them if it
is empty, and there are no more than there are lines. -/
theorem slideOnWords_eq (hwidth : 0 < width) {start : Nat} {blank : List Bool}
    (hstart : start + (blank.length - (width + 1)) + 1 < UInt64.size)
    (hlength : blank.length < UInt64.size) :
    slideOnWords start ((blank.take width).count true)
        ((blank.zip (blank.drop width)).take (blank.length - (width + 1))) =
      pure (slide start ((blank.take width).count true)
        ((blank.zip (blank.drop width)).take (blank.length - (width + 1)))) := by
  obtain ⟨w, rfl⟩ : ∃ w, width = w + 1 := ⟨width - 1, by omega⟩
  have hend {start blanks : Nat} (hstart : start + 1 < UInt64.size) :
      slideOnWords start blanks [] = pure (slide start blanks []) := by
    rw [slideOnWords, Word.add_eq hstart, pure_bind, slide]
  induction blank generalizing start with
  | nil =>
    rw [List.zip_nil_left, List.take_nil, List.take_nil]
    exact hend (by omega)
  | cons a rest ih =>
    rw [List.length_cons] at hstart hlength
    by_cases hlen : rest.length ≤ w + 1
    · rw [slidePairs_of_length_le hlen]
      exact hend (by omega)
    · have hlen : w + 1 < rest.length := Nat.lt_of_not_le hlen
      have hw : w < rest.length := Nat.lt_of_succ_lt hlen
      have hcount := count_window_succ (a := a) hw
      have hle : ((a :: rest).take (w + 1)).count true ≤ w + 1 :=
        List.count_le_length.trans (List.length_take_le _ _)
      have hentered := rest[w].toNat_le
      have hsub : ((a :: rest).take (w + 1)).count true + rest[w].toNat - a.toNat =
          (rest.take (w + 1)).count true := Nat.sub_eq_of_eq_add hcount
      rw [slidePairs_cons hlen, slideOnWords, Word.add_eq (by omega), pure_bind,
        Word.add_eq (by omega), pure_bind, Word.sub_eq (by omega), pure_bind, hsub,
        ih (by omega) (by omega), pure_bind, slide]
      rw [hsub]

theorem denseWindowsOnWords_eq {blank : List Bool} (h : blank.length < UInt64.size) :
    denseWindowsOnWords width blank = pure (denseWindows width blank) := by
  rw [denseWindowsOnWords, denseWindows]
  split
  · rfl
  next hcond =>
    -- There are more lines than the width says, so it is not the greatest word.
    obtain ⟨hwidth, hlen⟩ : 0 < width ∧ width < blank.length := by
      simp only [Bool.or_eq_true, decide_eq_true_eq] at hcond
      omega
    have htake := List.length_take_le width blank
    rw [tallyOnWords_eq (by omega), pure_bind, Word.add_eq (by omega), pure_bind, Nat.zero_add,
      Word.subOrZero_eq, slideOnWords_eq hwidth (by omega) h, pure_bind]

theorem checkOnWords_eq {m : Model} (h : m.lines.length < UInt64.size) :
    checkOnWords width m = pure (check width m) := by
  have hlength : (flags m).length < UInt64.size := by
    rwa [flags, List.length_map]
  rw [checkOnWords, doubledOnWords_eq (by omega), pure_bind, denseWindowsOnWords_eq hlength,
    pure_bind]
  rfl

end EmptyLines

/-! ## Bytes that are not there -/

/-- A statement has no body, and its last byte is in the text. -/
def Statement.HasLastByte (m : Model) : Statement → Prop
  | .simple _ s => 0 < s.stop.column ∧ m.HasByte ⟨s.stop.line, s.stop.column - 1⟩
  | .compound _ _ _ => False

instance (m : Model) : DecidablePred (Statement.HasLastByte m)
  | .simple _ s => inferInstanceAs (Decidable (0 < s.stop.column ∧ m.HasByte _))
  | .compound _ _ _ => inferInstanceAs (Decidable False)

/-- The byte next to a token that a side looks at is in the text. -/
def Token.HasNeighbour (m : Model) (t : Token) (side : Side) : Prop :=
  if side.looksBefore then
    0 < t.span.start.column ∧ m.HasByte ⟨t.span.start.line, t.span.start.column - 1⟩
  else m.HasByte t.span.stop

instance (m : Model) (t : Token) (side : Side) : Decidable (t.HasNeighbour m side) :=
  inferInstanceAs (Decidable (ite _ _ _))

theorem Model.hasByte_of_before {m : Model} {p : Position} {b : UInt8}
    (h : (if p.column = 0 then none else m.byteAt? ⟨p.line, p.column - 1⟩) = some b) :
    0 < p.column ∧ m.HasByte ⟨p.line, p.column - 1⟩ := by
  split at h
  · cases h
  next hcolumn => exact ⟨Nat.pos_of_ne_zero hcolumn, hasByte_iff.2 ⟨b, h⟩⟩

theorem Semicolons.hasLastByte_of_isMissing {m : Model} {s : Statement}
    (h : isMissing m s = true) : s.HasLastByte m := by
  cases s with
  | simple kind s =>
    obtain ⟨b, hb, -⟩ := (Option.any_eq_true _ _).1 h
    exact Model.hasByte_of_before hb
  | compound kind s body => cases h

theorem Spacing.hasNeighbour_of_isBroken {m : Model} {t : Token} {side : Side}
    (h : isBroken side (neighbour? m t side) = true) : t.HasNeighbour m side := by
  obtain ⟨b, hb, -⟩ := (Option.any_eq_true _ _).1 h
  rw [neighbour?] at hb
  rw [Token.HasNeighbour]
  split at hb
  next hbefore =>
    rw [if_pos hbefore]
    exact Model.hasByte_of_before hb
  next hafter =>
    rw [if_neg hafter]
    exact Model.hasByte_iff.2 ⟨b, hb⟩

/-- Below statements without a body there are no others. -/
theorem Statement.preorderAll_eq_self {ss : List Statement} (h : ∀ s ∈ ss, s.body? = none) :
    preorderAll ss = ss := by
  induction ss with
  | nil => rw [preorderAll_nil]
  | cons s ss ih =>
    obtain ⟨hs, hss⟩ := List.forall_mem_cons.1 h
    cases s with
    | simple kind s => rw [preorderAll_cons, preorder_simple, ih hss, List.singleton_append]
    | compound kind s body => cases hs

/-- The statements of which the last byte is not there might as well not be there. -/
theorem Semicolons.check_hasLastByte (m : Model) : check m =
    check { m with program := (Statement.preorderAll m.program).filter (·.HasLastByte m) } := by
  have hleaves :
      Statement.preorderAll ((Statement.preorderAll m.program).filter (·.HasLastByte m)) =
        (Statement.preorderAll m.program).filter (·.HasLastByte m) := by
    refine Statement.preorderAll_eq_self fun s hs => ?_
    have hbyte := of_decide_eq_true (List.mem_filter.1 hs).2
    cases s with
    | simple kind s => rfl
    | compound kind s body => exact hbyte.elim
  have hmissing : isMissing { m with program :=
      (Statement.preorderAll m.program).filter (·.HasLastByte m) } = isMissing m := rfl
  have hkept (s : Statement) :
      (isMissing m s && decide (s.HasLastByte m)) = isMissing m s := by
    rw [Bool.and_eq_left_iff_imp]
    exact fun h => decide_eq_true (hasLastByte_of_isMissing h)
  rw [check, check, hleaves, hmissing, List.filter_filter]
  simp only [hkept]

/-- The rules for a side on which a token has no byte might as well not be there. -/
theorem Spacing.check_hasNeighbour (rules : List SpacingRule) (m : Model) : check rules m =
    m.tokens.flatMap fun t =>
      check (rules.filter fun r => t.HasNeighbour m r.side) { m with tokens := [t] } := by
  rw [check, List.filterMap_eq_flatMap_toList]
  refine List.flatMap_congr fun t _ => ?_
  have hbroken : firstBroken? m (rules.filter fun r => t.HasNeighbour m r.side) t =
      firstBroken? m rules t := by
    rw [firstBroken?, firstBroken?, List.find?_filter]
    congr 1
    funext r
    rw [Bool.eq_iff_iff, decide_eq_true_iff, decide_eq_true_iff, and_iff_right_iff_imp,
      Bool.and_eq_true]
    exact fun h => hasNeighbour_of_isBroken h.2
  have hwarning : warning? { m with tokens := [t] }
      (rules.filter fun r => t.HasNeighbour m r.side) t = warning? m rules t := by
    rw [warning?, warning?, ← hbroken]
    rfl
  rw [check, List.filterMap_cons, hwarning, List.filterMap_nil]
  cases warning? m rules t <;> rfl

/-! ## All checks -/

/-- The warnings of a checker. Nothing is counted in the check of names. -/
def Checker.checkOnWords (m : Model) : Checker → Except WordError (List Diagnostic)
  | semicolons => return Semicolons.checkOnWords m
  | emptyLines width => EmptyLines.checkOnWords width m
  | spacing rules => return Spacing.checkOnWords rules m
  | naming rules => return Naming.check rules m

/-- If the lines of a source can be counted in a word, as those of everything in memory can, no
checker meets a number that is not a word, whatever the spans of the statements and tokens, the
width and the rules are, and its warnings are those of the unlimited arithmetic. A statement whose
last byte is not in the text has no warning for it, and a token has none for a side on which it has
no byte. -/
theorem Model.checks_onWords {m : Model} (h : m.lines.length < UInt64.size) :
    (∀ c : Checker, c.checkOnWords m = .ok (c.check m)) ∧
    Semicolons.check m = Semicolons.check
      { m with program := (Statement.preorderAll m.program).filter (·.HasLastByte m) } ∧
    ∀ rules, Spacing.check rules m = m.tokens.flatMap fun t =>
      Spacing.check (rules.filter fun r => t.HasNeighbour m r.side) { m with tokens := [t] } := by
  refine ⟨fun c => ?_, Semicolons.check_hasLastByte m, (Spacing.check_hasNeighbour · m)⟩
  cases c with
  | semicolons => exact congrArg pure (Semicolons.checkOnWords_eq m)
  | emptyLines width => exact EmptyLines.checkOnWords_eq h
  | spacing rules => exact congrArg pure (Spacing.checkOnWords_eq rules m)
  | naming rules => rfl

/-- The greatest word. -/
def Word.greatest : Nat := UInt64.size - 1

/-- Two empty lines between two lines of code. A statement and a token begin behind their end, and
at both ends they are far outside of the text; another statement and another token have a byte where
a check looks for one. -/
def farOutside : Model where
  text := ['a', '\n', '\n', '\n', 'b']
  program :=
    [.simple .expression ⟨⟨Word.greatest, 0⟩, ⟨0, Word.greatest⟩⟩,
      .simple .expression ⟨⟨Word.greatest, Word.greatest⟩, ⟨1, 1⟩⟩]
  tokens :=
    [⟨['+'], .punctuator, ⟨⟨Word.greatest, 0⟩, ⟨0, Word.greatest⟩⟩⟩,
      ⟨['+'], .punctuator, ⟨⟨1, 1⟩, ⟨0, 0⟩⟩⟩]
  filename := Model.noFilename

/-- Of the two statements and the two tokens the second ones are reported, also in line numbers that
the text does not have. -/
theorem Model.checks_onWords_farOutside :
    farOutside.lines.length < UInt64.size ∧
    Checker.semicolons.checkOnWords farOutside =
      .ok [.warning .missingSemicolons Semicolons.message noFilename Word.greatest] ∧
    (Checker.emptyLines Word.greatest).checkOnWords farOutside =
      .ok [.warning .emptyLines EmptyLines.extraMessage noFilename 2] ∧
    (Checker.emptyLines 1).checkOnWords farOutside =
      .ok [.warning .emptyLines EmptyLines.extraMessage noFilename 2,
        .warning .emptyLines EmptyLines.denseMessage noFilename 0] ∧
    (Checker.spacing [⟨['+'], .before⟩, ⟨['+'], .after⟩]).checkOnWords farOutside =
      .ok [.warning .spacesStyle (Side.before.message ['+']) noFilename 0] := by
  have hlines : farOutside.lines.length < UInt64.size := by decide
  obtain ⟨hchecks, -, -⟩ := Model.checks_onWords hlines
  refine ⟨hlines, ?_, ?_, ?_, ?_⟩
  · exact (hchecks _).trans (congrArg Except.ok (by decide))
  · exact (hchecks _).trans (congrArg Except.ok (by decide))
  · exact (hchecks _).trans (congrArg Except.ok (by decide))
  · exact (hchecks _).trans (congrArg Except.ok (by decide))

end ScriptStyle
