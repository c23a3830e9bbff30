import ScriptStyle.Lint.Linter
import ScriptStyle.Proofs.Density
import ScriptStyle.Proofs.Punctuators
import ScriptStyle.Proofs.Variables

/-!
# The lines of diagnostics

Two checks count lines from one and two count them from zero, and a diagnostic says how its line was
counted. `Linter.lint_isAbout` says that the numbers come out right: counted from one, the line of
every diagnostic about an accepted text is a line of the text, and the construct that the diagnostic
is about begins in it, whichever check it comes from.

What it means that a construct begins in a line is said in terms of the text (`Model.BeginsIn`). That
statements have a first character at all, and that no line feed is the first character of a statement
or an operator, are facts about the grammar (`Tree.isSpelled_of_parse?`).
-/

namespace ScriptStyle

open Text (BeginsInLine)

/-! ## Where constructs begin -/

/-- Some characters of the text of a model begin in a line, which is counted from one. -/
structure Model.BeginsIn (m : Model) (before construct : Text) (line : Nat) : Prop where
  exists_after : ∃ after, m.text = before ++ construct ++ after
  /-- So many lines end before them. -/
  line_eq : line = before.count '\n' + 1
  /-- Their first character is in the line, behind what stands before it there. -/
  exists_line : ∃ c cs behind, construct = c :: cs ∧
    m.line? (line - 1) = some (Text.lastLine before ++ c :: behind)

theorem Model.beginsIn {m : Model} {before construct after : Text}
    (hm : m.text = before ++ construct ++ after) (h : BeginsInLine construct) :
    m.BeginsIn before construct (before.count '\n' + 1) where
  exists_after := ⟨after, hm⟩
  line_eq := rfl
  exists_line := by
    obtain ⟨c, cs, rfl, hc⟩ := h
    have hline := Model.line?_advance (hm.trans (List.append_assoc _ _ _))
    have hfirst : Text.firstLine (c :: cs ++ after) = c :: Text.firstLine (cs ++ after) := by
      rw [Text.firstLine, List.cons_append, List.takeWhile_cons_of_pos (by simpa using hc),
        Text.firstLine]
    rw [hfirst] at hline
    exact ⟨c, cs, _, rfl, hline⟩

/-- The line where something begins is a line of the text. -/
theorem Model.BeginsIn.line_le {m : Model} {before construct : Text} {line : Nat}
    (h : m.BeginsIn before construct line) : 1 ≤ line ∧ line ≤ m.lines.length := by
  obtain ⟨c, cs, behind, -, hline⟩ := h.exists_line
  have hlt := (List.getElem?_eq_some_iff.1 hline).1
  have hpos := h.line_eq
  omega

/-- What a line of the text is, counted from one: whether it holds nothing but white space. -/
def Model.blankAt? (m : Model) (line : Nat) : Option Bool :=
  (m.line? (line - 1)).map EmptyLines.isEmptyLine

theorem Model.line_le_of_blankAt? {m : Model} {line : Nat} {b : Bool} (hpos : 1 ≤ line)
    (h : m.blankAt? line = some b) : line ≤ m.lines.length := by
  obtain ⟨chars, hchars, -⟩ := Option.map_eq_some_iff.1 h
  have hlt := (List.getElem?_eq_some_iff.1 hchars).1
  omega

/-- A statement of a tree comes from a node whose source text begins in a line of the model. -/
def Statement.BeginsIn (st : Statement) (t : Tree) (m : Model) (line : Nat) : Prop :=
  ∃ s : Site, s.IsIn t ∧ s.Makes st ∧ m.BeginsIn s.before s.text line

/-- What a diagnostic under some settings is about begins in a line, or is that line itself, where
the line is counted from one. `t` is the tree of the model. -/
def Diagnostic.IsAbout (d : Diagnostic) (t : Tree) (m : Model) (s : Settings) (line : Nat) : Prop :=
  match d.check with
  | .missingSemicolons =>
    d.message = Semicolons.message ∧
      ∃ st ∈ Statement.preorderAll m.program, Semicolons.isMissing m st = true ∧
        st.BeginsIn t m line
  | .emptyLines =>
    (d.message = EmptyLines.extraMessage ∧
      2 ≤ line ∧ m.blankAt? (line - 1) = some true ∧ m.blankAt? line = some true) ∨
    (d.message = EmptyLines.denseMessage ∧
      0 < s.maxCodeLines ∧ ∀ j < s.maxCodeLines, m.blankAt? (line + j) = some false)
  | .spacesStyle =>
    ∃ (site : TokenSite) (side : Side), site.token ∈ m.tokens ∧
      site.token.kind.isOperatorLike = true ∧
      side.lists s.spacesStyle site.token.value = true ∧
      d.message = side.message site.token.value ∧
      m.BeginsIn site.before site.token.value line
  | .correctNaming =>
    ∃ rules, NameRules.ofSettings s.namingPatterns = .ok rules ∧
      ∃ st ∈ Statement.preorderAll m.program, d.message ∈ Naming.messages rules st ∧
        st.BeginsIn t m line

/-- A line counted from one in another count. -/
def LineBase.number (b : LineBase) (line : Nat) : Nat :=
  match b with
  | one => line
  | zero => line - 1

namespace LineBase

variable {b : LineBase} {line : Nat}

theorem toOneBased_number (hpos : 1 ≤ line) (hle : line ≤ lineLimit) :
    b.toOneBased (b.number line) = line := by
  cases b with
  | one => rfl
  | zero =>
    rw [number, toOneBased, Nat.sub_add_cancel hpos]
    exact Nat.min_eq_left hle

/-- Beyond the greatest number a line gets a smaller one, but still that of a line. -/
theorem toOneBased_number_le (hpos : 1 ≤ line) :
    1 ≤ b.toOneBased (b.number line) ∧ b.toOneBased (b.number line) ≤ line := by
  cases b with
  | one => exact ⟨hpos, Nat.le_refl line⟩
  | zero =>
    have hlimit : 1 ≤ lineLimit := by decide
    rw [number, toOneBased, Nat.sub_add_cancel hpos]
    exact ⟨Nat.le_min.2 ⟨hpos, hlimit⟩, Nat.min_le_left _ _⟩

end LineBase

/-- A diagnostic has the number of a line of the text, and is about what begins there. -/
def Diagnostic.IsPlaced (d : Diagnostic) (t : Tree) (m : Model) (s : Settings) : Prop :=
  ∃ line, 1 ≤ line ∧ line ≤ m.lines.length ∧ d.line = d.lineBase.number line ∧
    d.IsAbout t m s line

/-! ## Statements -/

namespace Site

variable {s : Site} {t : Tree} {m : Model} {st : Statement}

theorem begins_of_simpleKind? (h : s.simpleKind?.isSome) : s.kind.begins = true := by
  rcases s with ⟨before, kind, parts, behind⟩
  cases kind <;> first | rfl | cases h

theorem begins_of_function {name : Option Identifier} (h : s.compoundKind? = some (.function name)) :
    s.kind.begins = true := by
  rcases s with ⟨before, kind, parts, behind⟩
  cases kind <;> first | rfl | cases h

theorem begins_of_classBody {name : Option Identifier}
    (h : s.compoundKind? = some (.classBody name)) : s.kind.begins = true := by
  rcases s with ⟨before, kind, parts, behind⟩
  cases kind <;> first | rfl | cases h

/-- A node of a spelled tree that is a statement for some check has a first character, and no line
feed is this character. -/
theorem beginsInLine_text (hin : s.IsIn t) (ht : t.IsSpelled) (hk : s.kind.begins = true) :
    BeginsInLine s.text := by
  have hadmits : s.kind.Admits s.parts := Tree.admits_of_holds hin (by simpa using ht)
  exact (hadmits.beginsInLine hk).append _

/-- Such a node begins in the line of the statement that it makes. -/
theorem beginsIn (hin : s.IsIn t) (ht : t.IsSpelled) (hm : m.text = t.text)
    (hk : s.kind.begins = true) (hmakes : s.Makes st) :
    m.BeginsIn s.before s.text st.span.start.line := by
  obtain ⟨rest, hrest⟩ := s.text_of_isIn hin
  have hspan : st.span = s.span := by
    cases st with
    | simple kind span => exact hmakes.2
    | compound kind span body => exact hmakes.2
  have hline : st.span.start.line = s.before.count '\n' + 1 := by
    rw [hspan, span, start, Text.advance_origin]
  rw [hline]
  exact Model.beginsIn (hm.trans hrest) (s.beginsInLine_text hin ht hk)

end Site

theorem exists_of_forall₂_of_mem {α β : Type} {R : α → β → Prop} {as : List α} {bs : List β}
    (h : List.Forall₂ R as bs) {b : β} (hb : b ∈ bs) : ∃ a ∈ as, R a b := by
  obtain ⟨i, hi, rfl⟩ := List.getElem_of_mem hb
  have hlength : i < as.length := h.length_eq ▸ hi
  exact ⟨as[i], List.getElem_mem hlength, h.get hlength hi⟩

section Accepted

variable {t : Tree} {filename : Text} {s : Settings} {d : Diagnostic}

/-- A statement of a spelled tree begins in its line if it comes from a node with a first
character. -/
theorem Statement.beginsIn (ht : t.IsSpelled) {st : Statement}
    (hst : st ∈ preorderAll (Model.ofTree t filename).program)
    (hk : ∀ s : Site, s.Makes st → s.kind.begins = true) :
    st.BeginsIn t (.ofTree t filename) st.span.start.line := by
  obtain ⟨sites, hin, hmakes⟩ := Tree.exists_sites t
  obtain ⟨s, hs, hst⟩ := exists_of_forall₂_of_mem hmakes hst
  exact ⟨s, hin s hs, hst, s.beginsIn (hin s hs) ht rfl (hk s hst) hst⟩

theorem Statement.BeginsIn.line_le {st : Statement} {m : Model} {line : Nat}
    (h : st.BeginsIn t m line) : 1 ≤ line ∧ line ≤ m.lines.length := by
  obtain ⟨s, -, -, hs⟩ := h
  exact hs.line_le

theorem Semicolons.isPlaced (ht : t.IsSpelled) (hd : d ∈ check (.ofTree t filename)) :
    d.IsPlaced t (.ofTree t filename) s := by
  obtain ⟨st, hst, rfl⟩ := List.mem_map.1 hd
  obtain ⟨hst, hmissing⟩ := List.mem_filter.1 hst
  have hbegins : st.BeginsIn t (.ofTree t filename) st.span.start.line := by
    refine Statement.beginsIn ht hst fun s hmakes => ?_
    cases st with
    | simple kind span => exact Site.begins_of_simpleKind? (by rw [hmakes.1]; rfl)
    | compound kind span body => cases hmissing
  exact ⟨_, hbegins.line_le.1, hbegins.line_le.2, rfl, rfl, st, hst, hmissing, hbegins⟩

theorem Naming.isPlaced (ht : t.IsSpelled) {rules : NameRules}
    (hrules : NameRules.ofSettings s.namingPatterns = .ok rules)
    (hd : d ∈ check rules (.ofTree t filename)) : d.IsPlaced t (.ofTree t filename) s := by
  obtain ⟨st, hst, hd⟩ := List.mem_flatMap.1 hd
  obtain ⟨message, hmessage, rfl⟩ := List.mem_map.1 hd
  have hbegins : st.BeginsIn t (.ofTree t filename) st.span.start.line := by
    refine Statement.beginsIn ht hst fun s hmakes => ?_
    cases st with
    | simple kind span => exact Site.begins_of_simpleKind? (by rw [hmakes.1]; rfl)
    | compound kind span body =>
      cases kind with
      | function name => exact Site.begins_of_function hmakes.1
      | classBody name => exact Site.begins_of_classBody hmakes.1
      | method | staticBlock | block | control => cases hmessage
  exact ⟨_, hbegins.line_le.1, hbegins.line_le.2, rfl, rules, hrules, st, hst, hmessage, hbegins⟩

/-! ## Operators -/

/-- Punctuators and words of the language begin in the line of their place. -/
theorem LeafKind.Fits.beginsInLine {kind : LeafKind} {chars : Text} {k : TokenKind}
    (h : kind.Fits chars) (hk : kind.tokenKind? = some k) (hoperator : k.isOperatorLike = true) :
    BeginsInLine chars := by
  cases kind with
  | keyword => exact h.2
  | punctuator => exact h.2
  | blank => cases hk
  | comment | name | property | shorthand | optionalChain | number | string | regex | template =>
    rw [← Option.some.inj hk] at hoperator
    cases hoperator

theorem Spacing.isPlaced (ht : t.IsSpelled)
    (hd : d ∈ check (rules s.spacesStyle) (.ofTree t filename)) :
    d.IsPlaced t (.ofTree t filename) s := by
  obtain ⟨sites, hmap, hmem, -⟩ := Tree.exists_isCovered_self t
  rw [check_of_sites hmap fun site hsite => ((hmem site).1 hsite).1] at hd
  obtain ⟨site, hsite, hdue⟩ := List.mem_filterMap.1 hd
  -- The token is that of a leaf, and the kind of the leaf says how its characters begin.
  obtain ⟨hin, ⟨b, kind, behind, hb, hholds, hkind⟩, -⟩ := (hmem site).1 hsite
  rw [dueAt?] at hdue
  split at hdue
  · next hoperator =>
    obtain ⟨side, hside, rfl⟩ := Option.map_eq_some_iff.1 hdue
    have hlists := List.find?_some hside
    rw [Bool.and_eq_true] at hlists
    have hfits : kind.Fits site.token.value := Tree.fits_of_holds hholds (by simpa using ht)
    have hline := Model.beginsIn (m := .ofTree t filename) hin.text_eq
      (hfits.beginsInLine hkind hoperator)
    have htoken : site.token ∈ (Model.ofTree t filename).tokens := by
      show site.token ∈ t.tokens .origin
      rw [← hmap]
      exact List.mem_map_of_mem hsite
    exact ⟨_, hline.line_le.1, hline.line_le.2, rfl, site, side, htoken, hoperator, hlists.1, rfl,
      hline⟩
  · cases hdue

end Accepted

/-! ## Empty lines -/

namespace EmptyLines

variable {m : Model} {t : Tree} {s : Settings} {d : Diagnostic}

theorem getElem?_flags (m : Model) (i : Nat) : (flags m)[i]? = m.blankAt? (i + 1) := by
  rw [flags, List.getElem?_map]
  rfl

/-- A line that is found to be empty like the one before is so. -/
theorem getElem?_of_mem_doubledFrom {i j : Nat} {blank : List Bool} (h : j ∈ doubledFrom i blank) :
    ∃ k, j = i + k + 1 ∧ blank[k]? = some true ∧ blank[k + 1]? = some true := by
  fun_induction doubledFrom i blank with
  | case1 i a b rest hab ih =>
    rcases List.mem_cons.1 h with rfl | h
    · obtain ⟨rfl, rfl⟩ : a = true ∧ b = true := by simpa using hab
      exact ⟨0, rfl, rfl, rfl⟩
    · obtain ⟨k, hk, hblank⟩ := ih h
      exact ⟨k + 1, by omega, by simpa using hblank⟩
  | case2 i a b rest hab ih =>
    obtain ⟨k, hk, hblank⟩ := ih h
    exact ⟨k + 1, by omega, by simpa using hblank⟩
  | case3 => cases h

/-- An empty line that is too many, counted from zero: in the other count it has the next number, and
its own number is that of the line before. -/
theorem blankAt?_of_mem_doubled {i : Nat} (h : i ∈ doubled (flags m)) :
    1 ≤ i ∧ m.blankAt? i = some true ∧ m.blankAt? (i + 1) = some true := by
  obtain ⟨k, hk, hfirst, hsecond⟩ := getElem?_of_mem_doubledFrom h
  have hi : i = k + 1 := by omega
  rw [getElem?_flags] at hfirst hsecond
  rw [hi]
  exact ⟨Nat.succ_pos k, hfirst, hsecond⟩

/-- The lines of a window that is reported hold code. -/
theorem blankAt?_of_mem_denseWindows {width i : Nat} (h : i ∈ denseWindows width (flags m)) :
    0 < width ∧ ∀ j < width, m.blankAt? (i + 1 + j) = some false := by
  -- Without a width there is nothing to look for.
  have hwidth : 0 < width := by
    refine Nat.pos_of_ne_zero fun hzero => ?_
    rw [hzero] at h
    cases h
  rw [denseWindows_eq hwidth] at h
  obtain ⟨hrange, hclear⟩ := List.mem_filter.1 h
  have hrange := List.mem_range.1 hrange
  rw [isClear_iff (by omega)] at hclear
  refine ⟨hwidth, fun j hj => ?_⟩
  have hline := hclear (i + j) (by omega) (by omega)
  rw [getElem?_flags] at hline
  rwa [Nat.add_right_comm]

theorem isPlaced (hd : d ∈ check s.maxCodeLines m) : d.IsPlaced t m s := by
  rcases List.mem_append.1 hd with hd | hd
  · obtain ⟨i, hi, rfl⟩ := List.mem_map.1 hd
    obtain ⟨hpos, hfirst, hsecond⟩ := blankAt?_of_mem_doubled hi
    have hle : i + 1 ≤ m.lines.length := Model.line_le_of_blankAt? (Nat.succ_pos i) hsecond
    exact ⟨i + 1, Nat.succ_pos i, hle, rfl, .inl ⟨rfl, Nat.succ_le_succ hpos, hfirst, hsecond⟩⟩
  · obtain ⟨i, hi, rfl⟩ := List.mem_map.1 hd
    obtain ⟨hwidth, hcode⟩ := blankAt?_of_mem_denseWindows hi
    have hle : i + 1 ≤ m.lines.length := Model.line_le_of_blankAt? (Nat.succ_pos i) (hcode 0 hwidth)
    exact ⟨i + 1, Nat.succ_pos i, hle, rfl, .inr ⟨rfl, hwidth, hcode⟩⟩

end EmptyLines

/-! ## All checks -/

namespace Linter

/-- What a linter reports, a checker of one of its checks reports. -/
theorem exists_build_of_mem {s : Settings} {l : Linter} (h : ofSettings s = .ok l) {m : Model}
    {d : Diagnostic} (hd : d ∈ l.lint m) : ∃ c k, Checker.build s c = .ok k ∧ d ∈ k.check m := by
  obtain ⟨ks, hks, rfl⟩ := exists_of_map_eq_ok h
  obtain ⟨k, hk, hd⟩ := List.mem_flatMap.1 hd
  obtain ⟨c, -, hc⟩ := exists_of_forall₂_of_mem (forall₂_of_mapM_eq_ok hks) hk
  exact ⟨c, k, hc, hd⟩

/-- Every diagnostic about an accepted text points at what it is about. Its line, counted from one,
is a line of the text; and in this line begins the statement that lacks its semicolon or has the
name, or the operator next to the space, or this line is blank behind a blank line, or it is the
first of so many lines without a blank one. Only lines that have no number in 64 bits have another
number than their own. -/
theorem lint_isAbout {text filename : Text} {m : Model} {s : Settings} {l : Linter}
    (hm : Model.ofText text filename = .ok m) (hl : ofSettings s = .ok l) :
    ∀ d ∈ l.lint m, 1 ≤ d.oneBasedLine ∧ d.oneBasedLine ≤ m.lines.length ∧
      ∃ line, d.IsAbout (Tree.ofText text) m s line ∧
        (line ≤ LineBase.lineLimit → d.oneBasedLine = line) := by
  intro d hd
  obtain ⟨t, ht, -, rfl⟩ := Model.ofText_eq_ok_iff.1 hm
  have htree : Tree.ofText text = t := Tree.ofText_of_parse? ht
  have hspelled : t.IsSpelled := Tree.isSpelled_of_parse? ht
  obtain ⟨c, k, hk, hd⟩ := exists_build_of_mem hl hd
  have hplaced : d.IsPlaced t (.ofTree t filename) s := by
    cases c with
    | missingSemicolons =>
      cases hk
      exact Semicolons.isPlaced hspelled hd
    | emptyLines =>
      cases hk
      exact EmptyLines.isPlaced hd
    | spacesStyle =>
      cases hk
      exact Spacing.isPlaced hspelled hd
    | correctNaming =>
      obtain ⟨rules, hrules, rfl⟩ := exists_of_map_eq_ok hk
      exact Naming.isPlaced hspelled hrules hd
  obtain ⟨line, hpos, hle, hline, habout⟩ := hplaced
  obtain ⟨hone, hline_le⟩ := LineBase.toOneBased_number_le (b := d.lineBase) hpos
  rw [htree, Diagnostic.oneBasedLine, hline]
  exact ⟨hone, Nat.le_trans hline_le hle, line, habout, LineBase.toOneBased_number hpos⟩

/-- A declaration, two empty lines, and two lines of code. -/
def spreadOut : Text :=
  ['v', 'a', 'r', ' ', 'a', '=', '1', '\n', '\n', '\n', 'b', ';', '\n', 'c', ';']

/-- All checks are on, each line of code counts as too much, and a space has to stand before an equals
sign. -/
def strict : Settings where
  checkers := { all := true }
  maxCodeLines := 1
  spacesStyle := { before := [['=']] }
  namingPatterns := {}

/-- Every check finds something, and the lines are those of the text. -/
theorem lint_isAbout_spreadOut : ∃ m l, Model.ofText spreadOut [] = .ok m ∧
    ofSettings strict = .ok l ∧
    (l.lint m).map (fun d => (d.check, d.oneBasedLine)) =
      [(.missingSemicolons, 1), (.emptyLines, 3), (.emptyLines, 1), (.emptyLines, 4),
        (.spacesStyle, 1), (.correctNaming, 1)] ∧
    ∀ d ∈ l.lint m, 1 ≤ d.oneBasedLine ∧ d.oneBasedLine ≤ m.lines.length ∧
      ∃ line, d.IsAbout (Tree.ofText spreadOut) m strict line ∧
        (line ≤ LineBase.lineLimit → d.oneBasedLine = line) :=
  ⟨_, _, rfl, rfl, by decide +kernel, lint_isAbout rfl rfl⟩

end Linter

end ScriptStyle
