import ScriptStyle.Text.Basic
import ScriptStyle.Syntax.Parse

/-!
# How constructs begin

All goals of the grammar begin at a lexeme. A rule of the class `Rule.Starts` reads at least one
character, and the first one is no line feed; a rule of the class `Rule.Leads` does so if it reads
at all; and a rule of the class `Rule.Stays` reads nothing. What comes first decides: a rule starts if
its first part does, and also if its first part leads and its second part starts, because rules never
move back.

The result is `Grammar.starts_upTo`: readings of every depth start. So no statement and no value is
empty, and each has its first character in the line in which it begins.
-/

namespace ScriptStyle

/-- There is a first character, and it still belongs to the line of the place before it. -/
def Text.BeginsInLine (t : Text) : Prop := ∃ c cs, t = c :: cs ∧ c ≠ '\n'

theorem Text.BeginsInLine.append {t : Text} (h : Text.BeginsInLine t) (u : Text) :
    Text.BeginsInLine (t ++ u) := by
  obtain ⟨c, cs, rfl, hc⟩ := h
  exact ⟨c, cs ++ u, rfl, hc⟩

open Text (BeginsInLine)

namespace Lexeme

/-- A measure counts nothing where a text ends or a line ends. -/
class IsVisible (measure : Text → Nat) : Prop where
  nil : measure [] = 0
  lineFeed : ∀ cs, measure ('\n' :: cs) = 0

theorem IsVisible.beginsInLine {measure : Text → Nat} [h : IsVisible measure] {cs : Text} {n : Nat}
    (hn : measure cs = n + 1) : BeginsInLine (cs.take (n + 1)) := by
  cases cs with
  | nil =>
    rw [h.nil] at hn
    cases hn
  | cons c cs =>
    refine ⟨c, cs.take n, List.take_succ_cons, ?_⟩
    rintro rfl
    rw [h.lineFeed] at hn
    cases hn

instance isVisible_word : IsVisible word := ⟨rfl, fun _ => rfl⟩

instance isVisible_privateName : IsVisible privateName := ⟨rfl, fun _ => rfl⟩

instance isVisible_number : IsVisible number := ⟨rfl, fun _ => rfl⟩

instance isVisible_string : IsVisible string := ⟨rfl, fun _ => rfl⟩

instance isVisible_regex : IsVisible regex := ⟨rfl, fun _ => rfl⟩

instance isVisible_staticGetLine : IsVisible Grammar.staticGetLine := ⟨rfl, fun _ => rfl⟩

/-- A measure of one spelling counts nothing where a line ends if the spelling begins in the line. -/
theorem isVisible_spelled {spelling : Text} (h : BeginsInLine spelling) :
    IsVisible (Rule.spelled spelling) := by
  obtain ⟨c, cs, rfl, hc⟩ := h
  refine ⟨rfl, fun rest => ?_⟩
  rw [Rule.spelled, List.isPrefixOf_cons_cons, beq_false_of_ne hc, Bool.false_and,
    if_neg Bool.false_ne_true]

/-- A word is read whole before it is compared with a spelling. -/
instance isVisible_keyword {spelling : Text} :
    IsVisible fun cs => if cs.take (word cs) = spelling then spelling.length else 0 where
  nil := by
    split
    · next h => rw [← h, List.take_nil, List.length_nil]
    · rfl
  lineFeed cs := by
    have hword : word ('\n' :: cs) = 0 := rfl
    rw [hword, List.take_zero]
    split
    · next h => rw [← h, List.length_nil]
    · rfl

/-! ### Punctuators -/

/-- The operators, brackets and separators of the language, and those of templates, decorators and
markup. -/
def punctuators : List Text :=
  operators ++
    [['('], [')'], ['['], [']'], ['{'], ['}'], [';'], [','], [':'], ['@'], ['$', '\x7b'],
      ['<', '/'], ['/', '>']]

/-- The mark of an optional access. -/
def optionalMark : Text := ['?', '.']

theorem beginsInLine_of_mem {m : Text} (h : m ∈ punctuators) : BeginsInLine m := by
  have hall : punctuators.all fun m => m.head?.any (· != '\n') := by decide
  have hm := List.all_eq_true.1 hall m h
  cases m with
  | nil => cases hm
  | cons c cs => exact ⟨c, cs, rfl, by simpa using hm⟩

/-- Some characters are those of a punctuator, but not of the mark of an optional access. -/
class IsMark (spelling : Text) : Prop where
  mem : spelling ∈ punctuators
  ne : spelling ≠ optionalMark

instance isMark_openingBrace : IsMark ['{'] := ⟨by decide, by decide⟩

instance isMark_closingBrace : IsMark ['}'] := ⟨by decide, by decide⟩

instance isMark_openingParenthesis : IsMark ['('] := ⟨by decide, by decide⟩

instance isMark_closingParenthesis : IsMark [')'] := ⟨by decide, by decide⟩

instance isMark_openingBracket : IsMark ['['] := ⟨by decide, by decide⟩

instance isMark_closingBracket : IsMark [']'] := ⟨by decide, by decide⟩

instance isMark_semicolon : IsMark [';'] := ⟨by decide, by decide⟩

instance isMark_comma : IsMark [','] := ⟨by decide, by decide⟩

instance isMark_colon : IsMark [':'] := ⟨by decide, by decide⟩

instance isMark_equals : IsMark ['='] := ⟨by decide, by decide⟩

instance isMark_dot : IsMark ['.'] := ⟨by decide, by decide⟩

instance isMark_star : IsMark ['*'] := ⟨by decide, by decide⟩

instance isMark_less : IsMark ['<'] := ⟨by decide, by decide⟩

instance isMark_greater : IsMark ['>'] := ⟨by decide, by decide⟩

instance isMark_at : IsMark ['@'] := ⟨by decide, by decide⟩

instance isMark_plus : IsMark ['+'] := ⟨by decide, by decide⟩

instance isMark_minus : IsMark ['-'] := ⟨by decide, by decide⟩

instance isMark_exclamation : IsMark ['!'] := ⟨by decide, by decide⟩

instance isMark_tilde : IsMark ['~'] := ⟨by decide, by decide⟩

instance isMark_question : IsMark ['?'] := ⟨by decide, by decide⟩

instance isMark_ellipsis : IsMark ['.', '.', '.'] := ⟨by decide, by decide⟩

instance isMark_arrow : IsMark ['=', '>'] := ⟨by decide, by decide⟩

instance isMark_increment : IsMark ['+', '+'] := ⟨by decide, by decide⟩

instance isMark_decrement : IsMark ['-', '-'] := ⟨by decide, by decide⟩

instance isMark_substitution : IsMark ['$', '\x7b'] := ⟨by decide, by decide⟩

instance isMark_closingTag : IsMark ['<', '/'] := ⟨by decide, by decide⟩

instance isMark_selfClosing : IsMark ['/', '>'] := ⟨by decide, by decide⟩

end Lexeme

namespace Rule

open Lexeme (IsVisible IsMark)

/-- A rule looks ahead or back and leaves the cursor where it is. -/
class Stays (r : Rule) : Prop where
  eq_of_run : ∀ {c d : Cursor}, r.run c = some d → d = c

/-- A rule reads at least one character, and the first is no line feed. -/
class Starts (r : Rule) : Prop where
  exists_read : ∀ {c d : Cursor}, r.run c = some d → ∃ w, c.rest = w ++ d.rest ∧ BeginsInLine w

/-- A rule reads nothing, or at least one character of which the first is no line feed. -/
class Leads (r : Rule) : Prop where
  stays_or_reads : ∀ {c d : Cursor}, r.run c = some d →
    d.rest = c.rest ∨ ∃ w, c.rest = w ++ d.rest ∧ BeginsInLine w

/-- What a rule reads, it appends to the text of what has been read before. -/
theorem exists_textOf_done {r : Rule} {c d : Cursor} (h : r.run c = some d) :
    ∃ w, c.rest = w ++ d.rest ∧ Tree.textOf d.done.reverse = Tree.textOf c.done.reverse ++ w := by
  obtain ⟨w, hw⟩ := r.rest_suffix h
  have htext := r.text_eq h
  rw [Cursor.text, Cursor.text, ← hw, ← List.append_assoc] at htext
  exact ⟨w, hw.symm, List.append_cancel_right htext⟩

/-- The parts of a node that a rule reads from its beginning begin as the rule does. -/
theorem Starts.beginsInLine {r : Rule} [h : Starts r] {rest : List Char} {d : Cursor}
    (hrun : r.run ⟨[], rest⟩ = some d) : BeginsInLine (Tree.textOf d.done.reverse) := by
  obtain ⟨w, hrest, hw⟩ := h.exists_read hrun
  obtain ⟨w', hrest', hdone⟩ := exists_textOf_done hrun
  -- Both are what has been read, because what is ahead is the same.
  have hsame : w' = w := List.append_cancel_right (hrest'.symm.trans hrest)
  rw [hdone, hsame]
  exact hw

/-- What has been read in this way may go on with any other rule. -/
theorem exists_read_append {w : Text} {r : Rule} {c d e : Cursor} (hw : BeginsInLine w)
    (hc : c.rest = w ++ d.rest) (h : r.run d = some e) :
    ∃ w, c.rest = w ++ e.rest ∧ BeginsInLine w := by
  obtain ⟨v, hv⟩ := r.rest_suffix h
  exact ⟨w ++ v, by rw [List.append_assoc, hv, hc], hw.append v⟩

section Combined

variable {a b r : Rule}

/-! ### Rules that read nothing -/

instance stays_skip : Stays skip := ⟨fun h => by cases h; rfl⟩

instance stays_check {p : Cursor → Bool} : Stays (check p) := ⟨fun h => (run_check h).1⟩

instance stays_onTop {p : Tree → Bool} : Stays (onTop p) := stays_check

instance stays_followedBy : Stays (followedBy r) := ⟨fun h => (run_followedBy h).1⟩

instance stays_notFollowedBy : Stays (notFollowedBy r) := stays_check

instance stays_ahead {gap : Gap} {p : Cursor → Bool} : Stays (ahead gap p) := stays_check

instance stays_noMarkupComment {operand : Bool} : Stays (noMarkupComment operand) :=
  stays_notFollowedBy

/-! ### Rules that read something if they read at all -/

instance leads_of_starts [h : Starts r] : Leads r where
  stays_or_reads hrun := .inr (h.exists_read hrun)

instance leads_of_stays [h : Stays r] : Leads r where
  stays_or_reads hrun := .inl (congrArg Cursor.rest (h.eq_of_run hrun))

instance leads_seq [h : Leads a] [k : Leads b] : Leads (a >> b) where
  stays_or_reads hrun := by
    obtain ⟨e, he, hd⟩ := run_seq hrun
    rcases h.stays_or_reads he with hstay | ⟨w, hc, hw⟩
    · rw [← hstay]
      exact k.stays_or_reads hd
    · exact .inr (exists_read_append hw hc hd)

instance leads_or [h : Leads a] [k : Leads b] : Leads (a <|> b) where
  stays_or_reads hrun := by
    rcases run_or hrun with hd | ⟨-, hd⟩
    · exact h.stays_or_reads hd
    · exact k.stays_or_reads hd

instance leads_optional [Leads r] : Leads r.optional := leads_or (a := r) (b := skip)

theorem stays_or_reads_repeatAtMost [h : Leads r] (fuel : Nat) (c : Cursor) :
    (r.repeatAtMost fuel c).rest = c.rest ∨
      ∃ w, c.rest = w ++ (r.repeatAtMost fuel c).rest ∧ BeginsInLine w := by
  induction fuel generalizing c with
  | zero => exact .inl rfl
  | succ fuel ih =>
    rw [repeatAtMost]
    split
    · next d hd =>
      rcases h.stays_or_reads hd with hstay | ⟨w, hc, hw⟩
      · rw [← hstay]
        exact ih d
      · obtain ⟨v, hv⟩ := r.rest_repeatAtMost_suffix fuel d
        exact .inr ⟨w ++ v, by rw [List.append_assoc, hv, hc], hw.append v⟩
    · exact .inl rfl

instance leads_many [h : Leads r] : Leads r.many where
  stays_or_reads {c d} hrun := by
    rcases run_many hrun with ⟨e, he, rfl⟩ | ⟨-, rfl⟩
    · -- The first round and those after it are one repetition with one round more.
      have hrepeat := stays_or_reads_repeatAtMost (r := r) (e.rest.length + 1) c
      rwa [repeatAtMost, he] at hrepeat
    · exact .inl rfl

/-! ### Rules that read something -/

instance starts_fail : Starts fail := ⟨fun h => by cases h⟩

instance starts_seq [h : Starts a] : Starts (a >> b) where
  exists_read hrun := by
    obtain ⟨e, he, hd⟩ := run_seq hrun
    obtain ⟨w, hc, hw⟩ := h.exists_read he
    exact exists_read_append hw hc hd

instance starts_leads_seq [h : Leads a] [k : Starts b] : Starts (a >> b) where
  exists_read hrun := by
    obtain ⟨e, he, hd⟩ := run_seq hrun
    rcases h.stays_or_reads he with hstay | ⟨w, hc, hw⟩
    · rw [← hstay]
      exact k.exists_read hd
    · exact exists_read_append hw hc hd

instance starts_or [h : Starts a] [k : Starts b] : Starts (a <|> b) where
  exists_read hrun := by
    rcases run_or hrun with hd | ⟨-, hd⟩
    · exact h.exists_read hd
    · exact k.exists_read hd

instance starts_oneOf_nil : Starts (oneOf []) := starts_fail

instance starts_oneOf_cons {rs : List Rule} [Starts r] [Starts (oneOf rs)] :
    Starts (oneOf (r :: rs)) :=
  starts_or

instance starts_ite {p : Prop} [Decidable p] [Starts a] [Starts b] :
    Starts (if p then a else b) := by
  split <;> assumption

instance starts_pick {f : Cursor → Rule} [h : ∀ c, Starts (f c)] : Starts (pick f) where
  exists_read {c _} hrun := (h c).exists_read hrun

instance starts_node {kind : NodeKind} [h : Starts r] : Starts (node kind r) where
  exists_read hrun := by
    obtain ⟨e, he, rfl⟩ := run_node hrun
    obtain ⟨w, hc, hw⟩ := h.exists_read he
    exact ⟨w, hc, hw⟩

end Combined

/-! ### Lexemes -/

instance starts_lexeme {kind : LeafKind} {measure : Text → Nat} [h : IsVisible measure] :
    Starts (lexeme kind measure) where
  exists_read {c d} hrun := by
    obtain ⟨n, hn, rfl⟩ := run_lexeme hrun
    refine ⟨c.rest.take (n + 1), ?_, IsVisible.beginsInLine hn⟩
    rw [Cursor.rest_shift, List.take_append_drop]

instance starts_keyword {spelling : Text} : Starts (keyword spelling) :=
  starts_lexeme (h := Lexeme.isVisible_keyword)

instance starts_anyWord {kind : LeafKind} : Starts (anyWord kind) := starts_lexeme

instance starts_mark {spelling : Text} [h : IsMark spelling] : Starts (mark spelling) :=
  starts_lexeme (h := Lexeme.isVisible_spelled (Lexeme.beginsInLine_of_mem h.mem))

instance starts_quote : Starts (lexeme .template (spelled [Char.ofNat 96])) :=
  starts_lexeme (h := Lexeme.isVisible_spelled ⟨_, _, rfl, by decide⟩)

instance starts_variableName : Starts variableName := by
  unfold variableName
  infer_instance

end Rule

namespace Grammar

open Rule

variable {g : Grammar} [∀ goal, Starts (g goal)]

/-! ### Values, functions and classes -/

instance starts_value {tail : Bool} {level : Level} : Starts (g.value tail level) := by
  unfold value; infer_instance

instance starts_sequence {tail : Bool} : Starts (g.sequence tail) := by
  unfold sequence; infer_instance

instance stays_otherWord {words : List Text} : Stays (otherWord words) := stays_check

instance starts_array : Starts g.array := by unfold array; infer_instance

instance starts_propertyName : Starts g.propertyName := by unfold propertyName; infer_instance

instance starts_functionWith {name : Rule} {operand : Bool} :
    Starts (g.functionWith name operand) := by
  unfold functionWith; infer_instance

instance starts_decorator : Starts g.decorator := by unfold decorator; infer_instance

instance leads_decorators : Leads g.decorators := by unfold decorators; infer_instance

instance leads_modifier {gap : Gap} {word : Text} {follows : Cursor → Bool} :
    Leads (modifier gap word follows) := by
  unfold modifier; infer_instance

instance starts_classWith {name : Rule} : Starts (g.classWith name) := by
  unfold classWith; infer_instance

instance starts_classValue : Starts g.classValue := by unfold classValue; infer_instance

instance starts_object : Starts g.object := by unfold object; infer_instance

instance starts_leadingObject {tail : Bool} : Starts (g.leadingObject tail) := by
  unfold leadingObject; infer_instance

instance starts_template : Starts g.template := by unfold template; infer_instance

instance starts_markupElement : Starts g.markupElement := by unfold markupElement; infer_instance

/-! ### Operands -/

instance starts_parenthesized {tail : Bool} : Starts (g.parenthesized tail) := by
  unfold parenthesized; infer_instance

instance starts_nameOrArrow {tail : Bool} : Starts (g.nameOrArrow tail) := by
  unfold nameOrArrow; infer_instance

instance starts_asynchronous {tail : Bool} : Starts (g.asynchronous tail) := by
  unfold asynchronous; infer_instance

instance starts_yield {tail : Bool} : Starts (g.yield tail) := by unfold yield; infer_instance

instance starts_importValue : Starts g.importValue := by unfold importValue; infer_instance

instance starts_wordPrefix {kind : NodeKind} {tail : Bool} {c : Cursor} :
    Starts (g.wordPrefix kind tail c) := by
  unfold wordPrefix; infer_instance

instance starts_wordOperand {tail : Bool} : Starts (g.wordOperand tail) := by
  refine starts_pick (h := fun c => ?_)
  split <;> infer_instance

instance starts_signed {tail : Bool} : Starts (g.signed tail) := by unfold signed; infer_instance

instance starts_privateTest {tail : Bool} : Starts (g.privateTest tail) := by
  unfold privateTest; infer_instance

instance starts_operand {tail : Bool} : Starts (g.operand tail) := by
  refine starts_pick (h := fun c => ?_)
  split <;> infer_instance

instance starts_expression {tail : Bool} {level : Level} : Starts (g.expression tail level) := by
  unfold expression; infer_instance

instance starts_construction {tail : Bool} : Starts (g.construction tail) :=
  starts_or (k := starts_node (h := starts_seq))

/-! ### Statements -/

instance starts_importStatement : Starts g.importStatement := by
  unfold importStatement; infer_instance

instance starts_expressionStatement : Starts g.expressionStatement := by
  unfold expressionStatement; infer_instance

instance starts_variableDeclaration : Starts g.variableDeclaration := by
  refine starts_pick (h := fun c => ?_)
  split <;> infer_instance

instance stays_letStatement : Stays letStatement := stays_followedBy

instance stays_startsFunction {gap : Gap} : Stays (startsFunction gap) := stays_followedBy

instance stays_startsClass : Stays startsClass := stays_check

instance starts_functionOrClass : Starts g.functionOrClass := by
  unfold functionOrClass; infer_instance

instance starts_functionOrClassStatement {alone : Bool} :
    Starts (g.functionOrClassStatement alone) := by
  unfold functionOrClassStatement; infer_instance

instance starts_exportDeclaration {gap : Gap} : Starts (g.exportDeclaration gap) := by
  unfold exportDeclaration; infer_instance

instance starts_exported : Starts g.exported := by unfold exported; infer_instance

instance starts_ifStatement {alone : Bool} : Starts (g.ifStatement alone) := by
  unfold ifStatement; infer_instance

instance starts_switchStatement : Starts g.switchStatement := by
  unfold switchStatement; infer_instance

instance starts_forInStatement {alone : Bool} : Starts (g.forInStatement alone) := by
  unfold forInStatement; infer_instance

instance starts_forStatement {alone : Bool} : Starts (g.forStatement alone) := by
  unfold forStatement; infer_instance

instance starts_whileStatement {alone : Bool} : Starts (g.whileStatement alone) := by
  unfold whileStatement; infer_instance

instance starts_doStatement : Starts g.doStatement := by unfold doStatement; infer_instance

instance starts_tryStatement : Starts g.tryStatement := by unfold tryStatement; infer_instance

instance starts_withStatement {alone : Bool} : Starts (g.withStatement alone) := by
  unfold withStatement; infer_instance

instance starts_jump {kind : NodeKind} {word : Text} : Starts (jump kind word) := by
  unfold jump; infer_instance

instance starts_returnStatement : Starts g.returnStatement := by
  unfold returnStatement; infer_instance

instance starts_throwStatement : Starts g.throwStatement := by unfold throwStatement; infer_instance

instance stays_labelAhead : Stays labelAhead := stays_followedBy

instance stays_braceThenLabel : Stays braceThenLabel := stays_followedBy

instance starts_braceStatement {alone : Bool} : Starts (g.braceStatement alone) := by
  unfold braceStatement; infer_instance

instance starts_labeledStatement {alone : Bool} : Starts (g.labeledStatement alone) := by
  unfold labeledStatement; infer_instance

instance starts_otherStatement {alone : Bool} : Starts (g.otherStatement alone) := by
  unfold otherStatement; infer_instance

set_option synthInstance.maxSize 400 in
instance starts_wordStatement {alone : Bool} : Starts (g.wordStatement alone) := by
  unfold wordStatement; infer_instance

instance starts_statement {alone : Bool} : Starts (g.statement alone) := by
  refine starts_pick (h := fun c => ?_)
  split <;> infer_instance

instance starts_block {operand : Bool} : Starts (g.block operand) := by unfold block; infer_instance

/-! ### The knot -/

theorem starts_rule (goal : Goal) : Starts (g.rule goal) := by
  cases goal with
  | statement alone => exact starts_statement
  | block operand => exact starts_block
  | expression tail level => exact starts_expression
  | object => exact starts_object
  | construction tail => exact starts_construction
  | markup => exact starts_markupElement

/-- A reading of any depth begins with a character in the line where it begins. -/
instance starts_upTo (n : Nat) (goal : Goal) : Starts (upTo n goal) := by
  induction n generalizing goal with
  | zero => exact starts_fail
  | succ n ih => exact starts_pick (h := fun _ => starts_rule goal)

end Grammar

end ScriptStyle
