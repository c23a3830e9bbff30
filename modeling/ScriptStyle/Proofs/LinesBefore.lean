import Mathlib.Data.List.Basic
import ScriptStyle.Lint.Naming
import ScriptStyle.Lint.Semicolons
import ScriptStyle.Lint.Spacing
import ScriptStyle.Proofs.Places

/-!
# Lines in front of a source

Where some code stands in its file does not matter to the checks of statements and of operators. With
some lines in front of it, and all spans moved down by their number, each of these checks gives its
warnings again, moved down by this number (`Model.checks_behind`).

All that the checks ask of a text is the byte at a place, and `Model.byteAt?_behind` says that the
byte at the place further down is the same. Nothing is assumed about the places themselves, so they
may lie outside the text. Only line zero is no line that could move: there is nothing on it, however
many lines stand in front of the text.
-/

namespace ScriptStyle

/-! ## Moving down -/

/-- The place so many lines further down. -/
def Position.down (p : Position) (k : Nat) : Position := ⟨p.line + k, p.column⟩

/-- The stretch so many lines further down. -/
def Span.down (s : Span) (k : Nat) : Span := ⟨s.start.down k, s.stop.down k⟩

/-- The name so many lines further down. -/
def Identifier.down (i : Identifier) (k : Nat) : Identifier := { i with span := i.span.down k }

/-- The kind of a statement that stands so many lines further down. -/
def SimpleKind.down (k : Nat) : SimpleKind → SimpleKind
  | declaration kind names => declaration kind (names.map (·.down k))
  | kind => kind

/-- The kind of a statement with a body that stands so many lines further down. -/
def CompoundKind.down (k : Nat) : CompoundKind → CompoundKind
  | function name => function (name.map (·.down k))
  | classBody name => classBody (name.map (·.down k))
  | kind => kind

namespace Statement

mutual

/-- The statement so many lines further down, with all that stands in its body. -/
def down (k : Nat) : Statement → Statement
  | simple kind span => simple (kind.down k) (span.down k)
  | compound kind span body => compound (kind.down k) (span.down k) (downAll k body)

/-- The statements so many lines further down. -/
def downAll (k : Nat) : List Statement → List Statement
  | [] => []
  | s :: ss => s.down k :: downAll k ss

end

@[simp] theorem down_simple (k : Nat) (kind : SimpleKind) (span : Span) :
    (simple kind span).down k = simple (kind.down k) (span.down k) := by rw [down]

@[simp] theorem down_compound (k : Nat) (kind : CompoundKind) (span : Span)
    (body : List Statement) :
    (compound kind span body).down k = compound (kind.down k) (span.down k) (downAll k body) := by
  rw [down]

@[simp] theorem downAll_nil (k : Nat) : downAll k [] = [] := by rw [downAll]

@[simp] theorem downAll_cons (k : Nat) (s : Statement) (ss : List Statement) :
    downAll k (s :: ss) = s.down k :: downAll k ss := by rw [downAll]

@[simp] theorem span_down (k : Nat) (s : Statement) : (s.down k).span = s.span.down k := by
  cases s <;> simp [span]

mutual

theorem preorder_down (k : Nat) :
    ∀ s : Statement, (s.down k).preorder = s.preorder.map (down k)
  | simple kind span => by simp
  | compound kind span body => by simp [preorderAll_downAll k body]

/-- The statements further down are met in the same order. -/
theorem preorderAll_downAll (k : Nat) :
    ∀ ss : List Statement, preorderAll (downAll k ss) = (preorderAll ss).map (down k)
  | [] => by simp
  | s :: ss => by simp [preorder_down k s, preorderAll_downAll k ss]

end

end Statement

/-- The token so many lines further down. -/
def Token.down (t : Token) (k : Nat) : Token := { t with span := t.span.down k }

/-- The diagnostic about the line so many lines further down. -/
def Diagnostic.down (d : Diagnostic) (k : Nat) : Diagnostic := { d with line := d.line + k }

theorem Diagnostic.down_warning (c : Check) (message filename : Text) (line k : Nat) :
    (warning c message filename line).down k = warning c message filename (line + k) := rfl

/-! ## Lines in front of a text -/

namespace Text

/-- Some lines, each with a line feed at its end. -/
def ofLines (ls : List Text) : Text := ls.flatMap (· ++ ['\n'])

theorem lines_append_lineFeed {l : Text} (hl : '\n' ∉ l) (t : Text) :
    lines (l ++ '\n' :: t) = l :: lines t := by
  induction l with
  | nil => simp [lines]
  | cons c l ih =>
    obtain ⟨hc, hl⟩ := List.ne_and_not_mem_of_not_mem_cons hl
    rw [List.cons_append, lines_cons_of_ne hc.symm, ih hl, List.modifyHead_cons]

/-- The lines in front of a text come before its own. -/
theorem lines_ofLines_append {ls : List Text} (hls : ∀ l ∈ ls, '\n' ∉ l) (t : Text) :
    lines (ofLines ls ++ t) = ls ++ lines t := by
  induction ls with
  | nil => rfl
  | cons l ls ih =>
    obtain ⟨hl, hls⟩ := List.forall_mem_cons.1 hls
    have hcons : ofLines (l :: ls) ++ t = l ++ '\n' :: (ofLines ls ++ t) := by simp [ofLines]
    rw [hcons, lines_append_lineFeed hl, ih hls, List.cons_append]

end Text

namespace Model

/-- The same source behind some lines. -/
def behind (m : Model) (ls : List Text) : Model where
  text := Text.ofLines ls ++ m.text
  program := Statement.downAll ls.length m.program
  tokens := m.tokens.map (·.down ls.length)
  filename := m.filename

/-- No statement and no token begins or ends on line zero. -/
structure CountsFromOne (m : Model) : Prop where
  /-- No statement does, at any depth. -/
  statements : ∀ s ∈ Statement.preorderAll m.program,
    1 ≤ s.span.start.line ∧ 1 ≤ s.span.stop.line
  /-- No token does. -/
  tokens : ∀ t ∈ m.tokens, 1 ≤ t.span.start.line ∧ 1 ≤ t.span.stop.line

variable {m : Model} {ls : List Text}

theorem preorderAll_behind (m : Model) (ls : List Text) :
    Statement.preorderAll (m.behind ls).program =
      (Statement.preorderAll m.program).map (Statement.down ls.length) :=
  Statement.preorderAll_downAll ls.length m.program

theorem line?_behind (hls : ∀ l ∈ ls, '\n' ∉ l) (i : Nat) :
    (m.behind ls).line? (i + ls.length) = m.line? i := by
  have hlines : (m.behind ls).lines = ls ++ m.lines := Text.lines_ofLines_append hls m.text
  rw [line?, line?, hlines, List.getElem?_append_right (Nat.le_add_left _ _),
    Nat.add_sub_cancel]

/-- The byte at a place further down is the byte at the place, whether there is one or not. -/
theorem byteAt?_behind (hls : ∀ l ∈ ls, '\n' ∉ l) {p : Position} (hp : 1 ≤ p.line) :
    (m.behind ls).byteAt? (p.down ls.length) = m.byteAt? p := by
  have hline : p.line ≠ 0 := by omega
  have hdown : (p.down ls.length).line ≠ 0 :=
    Nat.ne_of_gt (Nat.lt_of_lt_of_le hp (Nat.le_add_right _ _))
  have hindex : (p.down ls.length).line - 1 = p.line - 1 + ls.length :=
    Nat.sub_add_comm hp
  rw [byteAt?, byteAt?, if_neg hline, if_neg hdown, hindex, line?_behind hls]
  rfl

end Model

/-! ## Semicolons -/

namespace Semicolons

variable {m : Model} {ls : List Text}

theorem lastByte?_behind (hls : ∀ l ∈ ls, '\n' ∉ l) {s : Span} (hs : 1 ≤ s.stop.line) :
    lastByte? (m.behind ls) (s.down ls.length) = lastByte? m s := by
  unfold lastByte?
  rw [show (s.down ls.length).stop.column = s.stop.column from rfl]
  split
  · rfl
  · exact Model.byteAt?_behind (p := ⟨s.stop.line, s.stop.column - 1⟩) hls hs

theorem isMissing_behind (hls : ∀ l ∈ ls, '\n' ∉ l) {s : Statement} (hs : 1 ≤ s.span.stop.line) :
    isMissing (m.behind ls) (s.down ls.length) = isMissing m s := by
  cases s with
  | simple kind span =>
    have hlast : lastByte? (m.behind ls) (span.down ls.length) = lastByte? m span :=
      lastByte?_behind hls hs
    rw [Statement.down_simple, isMissing, isMissing, hlast]
  | compound kind span body =>
    rw [Statement.down_compound]
    rfl

theorem check_behind (hls : ∀ l ∈ ls, '\n' ∉ l) (hm : m.CountsFromOne) :
    check (m.behind ls) = (check m).map (·.down ls.length) := by
  have hfilter : (Statement.preorderAll m.program).filter
      (isMissing (m.behind ls) ∘ Statement.down ls.length) =
      (Statement.preorderAll m.program).filter (isMissing m) :=
    List.filter_congr fun s hs => isMissing_behind hls (hm.statements s hs).2
  rw [check, check, Model.preorderAll_behind, List.filter_map, hfilter, List.map_map, List.map_map]
  refine List.map_congr_left fun s _ => ?_
  dsimp only [Function.comp_apply]
  rw [Statement.span_down]
  rfl

end Semicolons

/-! ## Names -/

namespace Naming

/-- What is said about a statement does not depend on where it stands. -/
theorem messages_down (r : NameRules) (k : Nat) (s : Statement) :
    messages r (s.down k) = messages r s := by
  have hname (kind : NameKind) (i : Identifier) :
      nameMessages r kind (i.down k) = nameMessages r kind i := rfl
  cases s with
  | simple kind span =>
    rw [Statement.down_simple]
    cases kind with
    | declaration word names =>
      simp only [SimpleKind.down, messages, List.flatMap_map, hname]
    | _ => rfl
  | compound kind span body =>
    rw [Statement.down_compound]
    cases kind with
    | function name | classBody name =>
      cases name with
      | none => rfl
      | some i => rfl
    | _ => rfl

theorem check_behind (r : NameRules) (m : Model) (ls : List Text) :
    check r (m.behind ls) = (check r m).map (·.down ls.length) := by
  rw [check, check, Model.preorderAll_behind, List.flatMap_map, List.map_flatMap]
  refine List.flatMap_congr fun s _ => ?_
  rw [messages_down, Statement.span_down, List.map_map]
  rfl

end Naming

/-! ## Operators -/

namespace Spacing

variable {m : Model} {ls : List Text} {t : Token}

theorem neighbour?_behind (hls : ∀ l ∈ ls, '\n' ∉ l) (hstart : 1 ≤ t.span.start.line)
    (hstop : 1 ≤ t.span.stop.line) (side : Side) :
    neighbour? (m.behind ls) (t.down ls.length) side = neighbour? m t side := by
  have hbefore : byteBefore? (m.behind ls) (t.down ls.length) = byteBefore? m t := by
    unfold byteBefore?
    dsimp only
    rw [show (t.down ls.length).span.start.column = t.span.start.column from rfl]
    split
    · rfl
    · exact Model.byteAt?_behind (p := ⟨t.span.start.line, t.span.start.column - 1⟩) hls hstart
  have hafter : byteAfter? (m.behind ls) (t.down ls.length) = byteAfter? m t :=
    Model.byteAt?_behind hls hstop
  rw [neighbour?, neighbour?, hbefore, hafter]

theorem warning?_behind (hls : ∀ l ∈ ls, '\n' ∉ l) (hstart : 1 ≤ t.span.start.line)
    (hstop : 1 ≤ t.span.stop.line) (rules : List SpacingRule) :
    warning? (m.behind ls) rules (t.down ls.length) =
      (warning? m rules t).map (·.down ls.length) := by
  have hbroken : firstBroken? (m.behind ls) rules (t.down ls.length) = firstBroken? m rules t := by
    simp only [firstBroken?, neighbour?_behind hls hstart hstop]
    rfl
  have hline : (t.down ls.length).span.start.lineIndex = t.span.start.lineIndex + ls.length :=
    Nat.sub_add_comm hstart
  rw [warning?, warning?, hbroken, hline]
  show (if t.kind.isOperatorLike then _ else _) = _
  split
  · rw [Option.map_map]
    rfl
  · rfl

theorem check_behind (hls : ∀ l ∈ ls, '\n' ∉ l) (hm : m.CountsFromOne)
    (rules : List SpacingRule) :
    check rules (m.behind ls) = (check rules m).map (·.down ls.length) := by
  rw [check, check, Model.behind, List.filterMap_map, List.map_filterMap]
  refine List.filterMap_congr fun t ht => ?_
  exact warning?_behind hls (hm.tokens t ht).1 (hm.tokens t ht).2 rules

end Spacing

/-! ## The checks -/

namespace Model

/-- Behind some lines each check of statements or operators gives the same warnings as without them,
in the same order, moved down by the number of the lines. -/
theorem checks_behind {m : Model} {ls : List Text} (hls : ∀ l ∈ ls, '\n' ∉ l)
    (hm : m.CountsFromOne) :
    Semicolons.check (m.behind ls) = (Semicolons.check m).map (·.down ls.length) ∧
    (∀ rules, Naming.check rules (m.behind ls) =
      (Naming.check rules m).map (·.down ls.length)) ∧
    ∀ rules, Spacing.check rules (m.behind ls) =
      (Spacing.check rules m).map (·.down ls.length) :=
  ⟨Semicolons.check_behind hls hm, fun rules => Naming.check_behind rules m ls,
    Spacing.check_behind hls hm⟩

/-- A declaration with nothing around the sign in it, in the second line, and a token that is not in
the text at all. -/
def secondLine : Model where
  text := ['\n', 'v', 'a', 'r', ' ', 'a', '=', '1']
  program := [.simple (.declaration .var [⟨['a'], ⟨⟨2, 4⟩, ⟨2, 5⟩⟩⟩]) ⟨⟨2, 0⟩, ⟨2, 7⟩⟩]
  tokens := [⟨['='], .punctuator, ⟨⟨2, 5⟩, ⟨2, 6⟩⟩⟩, ⟨['='], .punctuator, ⟨⟨9, 5⟩, ⟨9, 6⟩⟩⟩]
  filename := noFilename

theorem countsFromOne_secondLine : secondLine.CountsFromOne where
  statements := by
    intro s hs
    simp only [secondLine, Statement.preorderAll_cons, Statement.preorderAll_nil,
      Statement.preorder_simple, List.append_nil, List.mem_singleton] at hs
    rw [hs]
    decide
  tokens := by
    intro t ht
    simp only [secondLine, List.mem_cons, List.not_mem_nil, or_false] at ht
    rcases ht with rfl | rfl <;> decide

/-- What is found in the second line is found in the fourth one behind two more lines. -/
theorem checks_behind_twoLines :
    let ls : List Text := [['/', '/', ' ', 'a'], []]
    (∀ l ∈ ls, '\n' ∉ l) ∧ secondLine.CountsFromOne ∧
    Semicolons.check (secondLine.behind ls) =
      [.warning .missingSemicolons Semicolons.message noFilename 4] ∧
    Naming.check {} (secondLine.behind ls) =
      [.warning .correctNaming Naming.varMessage noFilename 4] ∧
    Spacing.check [⟨['='], .before⟩] (secondLine.behind ls) =
      [.warning .spacesStyle (Side.before.message ['=']) noFilename 3] ∧
    Semicolons.check (secondLine.behind ls) =
      (Semicolons.check secondLine).map (·.down ls.length) ∧
    (∀ rules, Naming.check rules (secondLine.behind ls) =
      (Naming.check rules secondLine).map (·.down ls.length)) ∧
    ∀ rules, Spacing.check rules (secondLine.behind ls) =
      (Spacing.check rules secondLine).map (·.down ls.length) := by
  intro ls
  have hls : ∀ l ∈ ls, '\n' ∉ l := by decide
  exact ⟨hls, countsFromOne_secondLine, rfl, rfl, rfl, checks_behind hls countsFromOne_secondLine⟩

end Model

end ScriptStyle
