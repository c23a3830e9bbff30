import ScriptStyle.Lint.EmptyLines
import ScriptStyle.Lint.Naming
import ScriptStyle.Lint.Semicolons
import ScriptStyle.Proofs.Spacing

/-!
# Carriage returns at the ends of lines

A text may end its lines with a carriage return and a line feed. The carriage return then belongs to
the line, and the check of spaces takes it for a neighbour of a token that ends the line.

`warning?_withReturns` compares a model with the one that has a carriage return before every line
feed. The sides that look before an operator see the same bytes. Behind the last token of a line
there was nothing and is now a byte that is no space, so only the side that wants a space there can
break, and it does so whenever it lists the operator.

The other checks see no difference (`Model.unaffected_withReturns`): the last byte of a statement
stands before the carriage return, a line that is empty stays so, and names are not looked up in the
text at all.
-/

namespace ScriptStyle

namespace Text

/-- The byte of a carriage return. -/
def carriageReturn : UInt8 := 13

/-- The same text with a carriage return before every line feed. -/
def withReturns (t : Text) : Text := t.flatMap fun c => if c = '\n' then ['\r', '\n'] else [c]

/-- A carriage return ends every line but the last. -/
theorem getElem?_lines_withReturns (t : Text) (i : Nat) :
    (lines (withReturns t))[i]? =
      (lines t)[i]?.map fun l => if i + 1 < (lines t).length then l ++ ['\r'] else l := by
  induction t generalizing i with
  | nil =>
    cases i with
    | zero => rfl
    | succ i => rfl
  | cons c t ih =>
    have hpos : 0 < (lines t).length := List.length_pos_of_ne_nil (lines_ne_nil t)
    by_cases hc : c = '\n'
    · subst hc
      have hlines : lines (withReturns ('\n' :: t)) = ['\r'] :: lines (withReturns t) := rfl
      have hlines' : lines ('\n' :: t) = [] :: lines t := rfl
      rw [hlines, hlines']
      cases i with
      | zero => simp [hpos]
      | succ i => simp [ih]
    · have hreturns : withReturns (c :: t) = c :: withReturns t := by
        simp [withReturns, hc]
      rw [hreturns, lines_cons_of_ne hc, lines_cons_of_ne hc, List.length_modifyHead]
      cases i with
      | zero =>
        rw [List.getElem?_modifyHead_zero, List.getElem?_modifyHead_zero, ih, Option.map_map,
          Option.map_map]
        congr 1
        funext l
        dsimp only [Function.comp_apply]
        split <;> rfl
      | succ i =>
        rw [List.getElem?_modifyHead_succ, List.getElem?_modifyHead_succ, ih]

end Text

namespace Model

/-- The same source with a carriage return before every line feed. -/
def withReturns (m : Model) : Model := { m with text := m.text.withReturns }

/-- A place is in one of the lines, or at the end of one. -/
def Contains (m : Model) (p : Position) : Prop :=
  0 < p.line ∧ ∃ line, m.line? (p.line - 1) = some line ∧ p.column ≤ line.byteSize

/-- A place is at the end of a line that is not the last one. -/
def endsLine (m : Model) (p : Position) : Bool :=
  p.line < m.lines.length && (m.line? (p.line - 1)).any (·.byteSize = p.column)

variable {m : Model} {p : Position}

/-- A line of the other source at a place. -/
theorem line?_withReturns (hp : 0 < p.line) :
    m.withReturns.line? (p.line - 1) =
      (m.line? (p.line - 1)).map fun l => if p.line < m.lines.length then l ++ ['\r'] else l := by
  have hline : p.line - 1 + 1 = p.line := by omega
  have h := Text.getElem?_lines_withReturns m.text (p.line - 1)
  rwa [hline] at h

/-- Before the end of a line the bytes are the same. -/
theorem byteAt?_withReturns_of_lt {line : Text} (hp : 0 < p.line)
    (hline : m.line? (p.line - 1) = some line) (hlt : p.column < line.byteSize) :
    m.withReturns.byteAt? p = m.byteAt? p := by
  rw [byteAt?, byteAt?, if_neg (by omega), if_neg (by omega), line?_withReturns hp, hline,
    Option.map_some, Option.bind_some, Option.bind_some, Text.byteAt?_eq, Text.byteAt?_eq]
  split
  · rw [Text.bytes_append, List.getElem?_append_left (by rwa [Text.length_bytes])]
  · rfl

/-- Before a place stands the same byte. -/
theorem byteAt?_withReturns_before (h : m.Contains p) (hcolumn : p.column ≠ 0) :
    m.withReturns.byteAt? ⟨p.line, p.column - 1⟩ = m.byteAt? ⟨p.line, p.column - 1⟩ := by
  obtain ⟨hp, line, hline, hle⟩ := h
  have hlt : p.column - 1 < line.byteSize := by omega
  exact byteAt?_withReturns_of_lt (p := ⟨_, _⟩) hp hline hlt

/-- At the end of a line there is no byte. -/
theorem byteAt?_eq_none {line : Text} (hp : 0 < p.line)
    (hline : m.line? (p.line - 1) = some line) (hcolumn : p.column = line.byteSize) :
    m.byteAt? p = none := by
  rw [byteAt?, if_neg (by omega), hline, Option.bind_some, Text.byteAt?_eq, hcolumn,
    ← Text.length_bytes, List.getElem?_eq_none (Nat.le_refl _)]

/-- The carriage return is the byte at the end of every line but the last. -/
theorem byteAt?_withReturns (h : m.Contains p) :
    m.withReturns.byteAt? p = if m.endsLine p then some Text.carriageReturn else m.byteAt? p := by
  obtain ⟨hp, line, hline, hle⟩ := h
  rcases Nat.lt_or_eq_of_le hle with hlt | hcolumn
  · have hends : ¬ m.endsLine p = true := by
      simp [endsLine, hline]
      omega
    rw [if_neg hends, byteAt?_withReturns_of_lt hp hline hlt]
  · have hends : m.endsLine p = decide (p.line < m.lines.length) := by
      simp [endsLine, hline, hcolumn]
    by_cases hlast : p.line < m.lines.length
    · rw [hends, if_pos (decide_eq_true hlast), byteAt?, if_neg (by omega), line?_withReturns hp,
        hline, Option.map_some, Option.bind_some, if_pos hlast, Text.byteAt?_eq, hcolumn,
        ← Text.length_bytes, Text.bytes_append, List.getElem?_append_right (Nat.le_refl _),
        Nat.sub_self]
      rfl
    · have hline' : m.withReturns.line? (p.line - 1) = some line := by
        rw [line?_withReturns hp, hline, Option.map_some, if_neg hlast]
      rw [hends, if_neg (by simpa using hlast), byteAt?_eq_none hp hline hcolumn,
        byteAt?_eq_none hp hline' hcolumn]

end Model

namespace Spacing

variable {m : Model} {t : Token}

/-- Before a token stands the same byte. -/
theorem byteBefore?_withReturns (h : m.Contains t.span.start) :
    byteBefore? m.withReturns t = byteBefore? m t := by
  unfold byteBefore?
  dsimp only
  split
  · rfl
  · next hcolumn => exact Model.byteAt?_withReturns_before h hcolumn

/-- A byte that is no space breaks the side that wants one. -/
theorem isBroken_carriageReturn (side : Side) :
    isBroken side (some Text.carriageReturn) = side.wantsSpace := by
  cases side <;> rfl

/-- At the end of a line there is no neighbour to break a rule. -/
theorem isBroken_none (side : Side) : isBroken side none = false := rfl

/-- Behind a token that does not end a line stands the same byte. -/
theorem byteAfter?_withReturns (h : m.Contains t.span.stop)
    (hends : m.endsLine t.span.stop = false) : byteAfter? m.withReturns t = byteAfter? m t := by
  rw [byteAfter?, Model.byteAt?_withReturns h, hends]
  rfl

/-- Behind a token that ends a line stands nothing, and then the carriage return. -/
theorem byteAfter?_of_endsLine (h : m.Contains t.span.stop) (hends : m.endsLine t.span.stop) :
    byteAfter? m t = none ∧ byteAfter? m.withReturns t = some Text.carriageReturn := by
  obtain ⟨hp, line, hline, -⟩ := id h
  have hcolumn : t.span.stop.column = line.byteSize := by
    simp only [Model.endsLine, hline, Option.any_some, Bool.and_eq_true, decide_eq_true_eq] at hends
    exact hends.2.symm
  refine ⟨Model.byteAt?_eq_none hp hline hcolumn, ?_⟩
  rw [byteAfter?, Model.byteAt?_withReturns h, if_pos hends]

/-- The warning about a token that ends a line, because a carriage return is no space. -/
def returnWarning? (m : Model) (style : SpacesStyle) (t : Token) : Option Diagnostic :=
  if t.kind.isOperatorLike && m.endsLine t.span.stop && Side.after.lists style t.value then
    some (.warning .spacesStyle (Side.after.message t.value) m.filename t.span.start.lineIndex)
  else none

/-- The carriage returns add a rule for the side behind a token that ends its line, which is the
last side that can break there. -/
theorem firstBroken?_withReturns (hstart : m.Contains t.span.start)
    (hstop : m.Contains t.span.stop) (style : SpacesStyle) :
    firstBroken? m.withReturns (rules style) t =
      (firstBroken? m (rules style) t).or
        (if m.endsLine t.span.stop && Side.after.lists style t.value then some ⟨t.value, .after⟩
          else none) := by
  rw [firstBroken?_rules, firstBroken?_rules]
  have hbefore := byteBefore?_withReturns hstart
  cases hends : m.endsLine t.span.stop with
  | false =>
    have hafter := byteAfter?_withReturns hstop hends
    have hsame (side : Side) : neighbour? m.withReturns t side = neighbour? m t side := by
      rw [neighbour?, neighbour?, hbefore, hafter]
    simp only [hsame, Bool.false_and, Bool.false_eq_true, if_false, Option.or_none]
  | true =>
    obtain ⟨hnone, hreturn⟩ := byteAfter?_of_endsLine hstop hends
    -- the sides before the token decide first, and in the same way
    simp only [Side.all, List.find?_cons, List.find?_nil, neighbour?, Side.looksBefore, if_true,
      Bool.false_eq_true, if_false, hbefore, hnone, hreturn, isBroken_none,
      isBroken_carriageReturn, Side.wantsSpace, Bool.and_true, Bool.and_false, Bool.true_and]
    cases Side.before.lists style t.value && isBroken .before (byteBefore? m t) with
    | true => rfl
    | false =>
      cases Side.noBefore.lists style t.value && isBroken .noBefore (byteBefore? m t) with
      | true => rfl
      | false => cases Side.after.lists style t.value <;> rfl

/-- The carriage returns add a warning for a token that has none, ends its line and is to have a
space behind it. -/
theorem warning?_withReturns (hstart : m.Contains t.span.start) (hstop : m.Contains t.span.stop)
    (style : SpacesStyle) :
    warning? m.withReturns (rules style) t =
      (warning? m (rules style) t).or (returnWarning? m style t) := by
  rw [warning?, warning?, returnWarning?, firstBroken?_withReturns hstart hstop]
  cases t.kind.isOperatorLike with
  | false => rfl
  | true =>
    rw [if_pos rfl, if_pos rfl, Option.map_or, Bool.true_and]
    congr 1
    split <;> rfl

/-! ## The check of spaces -/

section

variable {α β : Type} (f g : α → Option β)

theorem length_filterMap_le_or (l : List α) :
    (l.filterMap f).length ≤ (l.filterMap fun a => (f a).or (g a)).length := by
  induction l with
  | nil => exact Nat.le_refl _
  | cons a l ih =>
    rw [List.filterMap_cons, List.filterMap_cons]
    cases f a with
    | some b => exact Nat.succ_le_succ ih
    | none =>
      cases g a with
      | some b => exact Nat.le_succ_of_le ih
      | none => exact ih

/-- A second choice changes nothing if and only if it is never taken. -/
theorem filterMap_or_eq_iff (l : List α) :
    (l.filterMap fun a => (f a).or (g a)) = l.filterMap f ↔
      ∀ a ∈ l, f a = none → g a = none := by
  induction l with
  | nil => simp
  | cons a l ih =>
    rw [List.filterMap_cons, List.filterMap_cons, List.forall_mem_cons]
    cases hf : f a with
    | some b => simp [ih]
    | none =>
      cases hg : g a with
      | none => simp [ih]
      | some b =>
        have hlen := length_filterMap_le_or f g l
        constructor
        · intro h
          have := congrArg List.length h
          simp only [Option.none_or, List.length_cons] at this
          omega
        · rintro ⟨h, -⟩
          cases h rfl

end

theorem returnWarning?_eq_none {style : SpacesStyle} : returnWarning? m style t = none ↔
    ¬ (t.kind.isOperatorLike ∧ m.endsLine t.span.stop ∧ t.value ∈ style.after) := by
  simp only [returnWarning?, ite_eq_right_iff, reduceCtorEq, imp_false, Bool.and_eq_true,
    Side.lists_iff, and_assoc, Side.operators]

/-- With carriage returns the check finds all that it finds without them, and reports in addition
every operator without a warning that ends a line other than the last and is to have a space behind
it. So the carriage returns make no difference if and only if there is no such operator. -/
theorem check_withReturns (h : ∀ t ∈ m.tokens, m.Contains t.span.start ∧ m.Contains t.span.stop)
    (style : SpacesStyle) :
    check (rules style) m.withReturns = m.tokens.filterMap (fun t =>
        (warning? m (rules style) t).or (returnWarning? m style t)) ∧
      (check (rules style) m.withReturns = check (rules style) m ↔
        ∀ t ∈ m.tokens, t.kind.isOperatorLike → m.endsLine t.span.stop → t.value ∈ style.after →
          (warning? m (rules style) t).isSome) := by
  have hcheck : check (rules style) m.withReturns = m.tokens.filterMap (fun t =>
      (warning? m (rules style) t).or (returnWarning? m style t)) := by
    refine List.filterMap_congr ?_
    intro t ht
    exact warning?_withReturns (h t ht).1 (h t ht).2 style
  refine ⟨hcheck, ?_⟩
  rw [hcheck, check, filterMap_or_eq_iff]
  refine forall₂_congr ?_
  intro t _
  rw [returnWarning?_eq_none, Option.isSome_iff_ne_none]
  constructor
  · intro hnone hkind hends hafter heq
    exact hnone heq ⟨hkind, hends, hafter⟩
  · rintro hsome heq ⟨hkind, hends, hafter⟩
    exact hsome hkind hends hafter heq

/-- A sum whose second term stands in the next line. -/
def sumOverTwoLines : Model where
  text := ['a', ' ', '+', '\n', 'b']
  program := []
  tokens := [⟨['a'], .identifier, ⟨⟨1, 0⟩, ⟨1, 1⟩⟩⟩, ⟨['+'], .punctuator, ⟨⟨1, 2⟩, ⟨1, 3⟩⟩⟩,
    ⟨['b'], .identifier, ⟨⟨2, 0⟩, ⟨2, 1⟩⟩⟩]
  filename := Model.noFilename

theorem contains_sumOverTwoLines : ∀ t ∈ sumOverTwoLines.tokens,
    sumOverTwoLines.Contains t.span.start ∧ sumOverTwoLines.Contains t.span.stop := by
  intro t ht
  simp only [sumOverTwoLines, List.mem_cons, List.not_mem_nil, or_false] at ht
  rcases ht with rfl | rfl | rfl <;>
    exact ⟨⟨by decide, _, rfl, by decide⟩, ⟨by decide, _, rfl, by decide⟩⟩

/-- Behind the sign of the sum no space is missing if only line feeds end lines, and one is missing
if carriage returns do too. -/
theorem check_withReturns_sum :
    (check (rules { after := [['+']] }) sumOverTwoLines.withReturns =
      check (rules { after := [['+']] }) sumOverTwoLines ↔
        ∀ t ∈ sumOverTwoLines.tokens, t.kind.isOperatorLike →
          sumOverTwoLines.endsLine t.span.stop → t.value ∈ [['+']] →
            (warning? sumOverTwoLines (rules { after := [['+']] }) t).isSome) :=
  (check_withReturns contains_sumOverTwoLines { after := [['+']] }).2

/-- The line ends make a difference to this sum. -/
theorem spacing_sumOverTwoLines :
    (∀ t ∈ sumOverTwoLines.tokens,
      sumOverTwoLines.Contains t.span.start ∧ sumOverTwoLines.Contains t.span.stop) ∧
    check (rules { after := [['+']] }) sumOverTwoLines = [] ∧
    check (rules { after := [['+']] }) sumOverTwoLines.withReturns =
      [.warning .spacesStyle (Side.after.message ['+']) Model.noFilename 0] := by
  have hrules : rules { after := [['+']] } = [⟨['+'], .after⟩] := by
    simp [rules, Side.all, Side.operators]
  rw [hrules]
  exact ⟨contains_sumOverTwoLines, rfl, rfl⟩

end Spacing

/-! ## The other checks -/

namespace Semicolons

variable {m : Model}

theorem lastByte?_withReturns {s : Span} (h : m.Contains s.stop) :
    lastByte? m.withReturns s = lastByte? m s := by
  unfold lastByte?
  split
  · rfl
  · next hcolumn => exact Model.byteAt?_withReturns_before h hcolumn

theorem isMissing_withReturns {s : Statement} (h : m.Contains s.span.stop) :
    isMissing m.withReturns s = isMissing m s := by
  cases s with
  | simple kind span =>
    have hlast : lastByte? m.withReturns span = lastByte? m span := lastByte?_withReturns h
    rw [isMissing, isMissing, hlast]
  | compound kind span body => rfl

theorem check_congr_withReturns
    (h : ∀ s ∈ Statement.preorderAll m.program, m.Contains s.span.stop) :
    check m.withReturns = check m := by
  have hfilter : (Statement.preorderAll m.program).filter (isMissing m.withReturns) =
      (Statement.preorderAll m.program).filter (isMissing m) :=
    List.filter_congr fun s hs => isMissing_withReturns (h s hs)
  exact congrArg (List.map fun s : Statement =>
    Diagnostic.warning .missingSemicolons message m.filename s.span.start.line) hfilter

end Semicolons

namespace EmptyLines

/-- A carriage return is white space. -/
theorem isEmptyLine_concat_return (line : Text) :
    isEmptyLine (line ++ ['\r']) = isEmptyLine line := by
  have hreturn : Characters.isWhiteSpace '\r' = true := by decide
  rw [isEmptyLine, List.all_append, List.all_cons, List.all_nil, hreturn, Bool.true_and,
    Bool.and_true, isEmptyLine]

theorem flags_withReturns (m : Model) : flags m.withReturns = flags m := by
  refine List.ext_getElem? fun i => ?_
  have hlines : m.withReturns.lines[i]? = _ := Text.getElem?_lines_withReturns m.text i
  rw [flags, flags, List.getElem?_map, List.getElem?_map, hlines, Option.map_map]
  refine Option.map_congr fun line _ => ?_
  dsimp only [Function.comp_apply]
  split
  · exact isEmptyLine_concat_return line
  · rfl

end EmptyLines

namespace Model

/-- The checks other than that of spaces find the same with carriage returns at the ends of lines as
without them, whatever else the text holds, if statements end inside the text. -/
theorem unaffected_withReturns {m : Model}
    (h : ∀ s ∈ Statement.preorderAll m.program, m.Contains s.span.stop) :
    Semicolons.check m.withReturns = Semicolons.check m ∧
      (∀ rules, Naming.check rules m.withReturns = Naming.check rules m) ∧
      ∀ width, EmptyLines.check width m.withReturns = EmptyLines.check width m := by
  refine ⟨Semicolons.check_congr_withReturns h, fun rules => rfl, fun width => ?_⟩
  rw [EmptyLines.check, EmptyLines.check, EmptyLines.flags_withReturns]
  rfl

/-- Two statements in a block, and between them an empty line and one that holds nothing but white
space. Some of the lines end with a carriage return already. -/
def returnsInside : Model where
  text := ['a', '\r', '\n', '\n', ' ', '\r', '\n', 'b', ';']
  program := [.compound .block ⟨⟨1, 0⟩, ⟨4, 2⟩⟩
    [.simple .expression ⟨⟨1, 0⟩, ⟨1, 1⟩⟩, .simple .expression ⟨⟨4, 0⟩, ⟨4, 2⟩⟩]]
  tokens := []
  filename := noFilename

theorem contains_returnsInside : ∀ s ∈ Statement.preorderAll returnsInside.program,
    returnsInside.Contains s.span.stop := by
  intro s hs
  simp only [returnsInside, Statement.preorderAll_cons, Statement.preorderAll_nil,
    Statement.preorder_compound, Statement.preorder_simple, List.append_nil, List.singleton_append,
    List.mem_cons, List.not_mem_nil, or_false] at hs
  rcases hs with rfl | rfl | rfl <;> exact ⟨by decide, _, rfl, by decide⟩

/-- The first statement lacks its semicolon and the third line is an empty one too many, whatever the
line ends are. -/
theorem unaffected_withReturns_inside :
    Semicolons.check returnsInside =
      [.warning .missingSemicolons Semicolons.message noFilename 1] ∧
    EmptyLines.check 9 returnsInside =
      [.warning .emptyLines EmptyLines.extraMessage noFilename 2] ∧
    Semicolons.check returnsInside.withReturns = Semicolons.check returnsInside ∧
    (∀ rules, Naming.check rules returnsInside.withReturns = Naming.check rules returnsInside) ∧
    ∀ width, EmptyLines.check width returnsInside.withReturns =
      EmptyLines.check width returnsInside :=
  ⟨rfl, by decide, unaffected_withReturns contains_returnsInside⟩

end Model

end ScriptStyle
