import ScriptStyle.Proofs.Leaves

/-!
# The trees of the grammar

Every rule of the grammar makes leaves with characters that fit their kinds and nodes with parts that
their kinds admit, as long as the reading of the goals inside does and starts. The reading of depth
zero makes no trees at all, so readings of every depth do, and with them the one that reads a text:
`Tree.isSpelled_of_parse?`.
-/

namespace ScriptStyle

namespace Grammar

open Rule

open Lexeme (IsMark)

variable {g : Grammar} [∀ goal, Spells (g goal)] [∀ goal, Starts (g goal)]

/-! ### Goals -/

instance spells_value {tail : Bool} {level : Level} : Spells (g.value tail level) := by
  unfold value; infer_instance

instance spells_sequence {tail : Bool} : Spells (g.sequence tail) := by
  unfold sequence; infer_instance

instance spells_spread : Spells g.spread := by unfold spread; infer_instance

instance spells_element : Spells g.element := by unfold element; infer_instance

instance spells_initializer {gap : Gap} {tail : Bool} : Spells (g.initializer gap tail) := by
  unfold initializer; infer_instance

instance spells_parameters : Spells g.parameters := by unfold parameters; infer_instance

instance spells_arguments : Spells g.arguments := by unfold arguments; infer_instance

instance spells_propertyName : Spells g.propertyName := by unfold propertyName; infer_instance

instance spells_array : Spells g.array := by unfold array; infer_instance

/-! ### Functions, methods and classes -/

instance spells_signature {gap : Gap} {operand : Bool} : Spells (g.signature gap operand) := by
  unfold signature; infer_instance

instance spells_functionWith {name : Rule} {operand : Bool} [Spells name] :
    Spells (g.functionWith name operand) := by
  unfold functionWith; infer_instance

instance spells_decorator : Spells g.decorator := by unfold decorator; infer_instance

instance spells_decorators : Spells g.decorators := by unfold decorators; infer_instance

instance spells_modifier {gap : Gap} {word : Text} {follows : Cursor → Bool} :
    Spells (modifier gap word follows) := by
  unfold modifier; infer_instance

/-- The words `static get` with the line break behind them begin with no question mark. -/
instance spells_staticGetLine : Spells (lexeme .punctuator staticGetLine) := by
  refine spells_lexeme fun cs n hn => ⟨fun hchars => ?_, Lexeme.IsVisible.beginsInLine hn⟩
  have hstatic : cs.take 6 = ['s', 't', 'a', 't', 'i', 'c'] := by
    by_contra hne
    rw [staticGetLine, if_neg hne] at hn
    cases hn
  cases cs with
  | nil => cases hstatic
  | cons c cs =>
    have hc : c = 's' := (List.cons.inj hstatic).1
    have hc' : c = '?' := (List.cons.inj hchars).1
    rw [hc] at hc'
    exact absurd hc' (by decide)

instance spells_methodName {gap : Gap} : Spells (g.methodName gap) := by
  unfold methodName; infer_instance

instance spells_method {gap : Gap} : Spells (g.method gap) := by unfold method; infer_instance

instance spells_field : Spells g.field := by unfold field; infer_instance

instance spells_member : Spells g.member := by unfold member; infer_instance

instance spells_classBody : Spells g.classBody := by unfold classBody; infer_instance

instance spells_classWith {name : Rule} [Spells name] : Spells (g.classWith name) := by
  unfold classWith; infer_instance

instance spells_functionName : Spells functionName := by unfold functionName; infer_instance

instance spells_className : Spells className := by unfold className; infer_instance

/-! ### Objects and templates -/

instance spells_propertyValue {gap : Gap} : Spells (g.propertyValue gap) := by
  unfold propertyValue; infer_instance

instance spells_propertyDefault {gap : Gap} : Spells (g.propertyDefault gap) := by
  unfold propertyDefault; infer_instance

instance spells_wordProperty {gap : Gap} : Spells (g.wordProperty gap) := by
  unfold wordProperty; infer_instance

instance spells_namedProperty {gap : Gap} : Spells (g.namedProperty gap) := by
  unfold namedProperty; infer_instance

instance spells_listProperty {list : Rule} [Spells list] : Spells (g.listProperty list) := by
  unfold listProperty; infer_instance

instance spells_property {gap : Gap} : Spells (g.property gap) := by
  refine keeps_pick (h := fun c => ?_)
  split <;> infer_instance

instance spells_object : Spells g.object := by unfold object; infer_instance

instance spells_leadingProperty {tail : Bool} : Spells (g.leadingProperty tail) := by
  unfold leadingProperty; infer_instance

instance spells_leadingObject {tail : Bool} : Spells (g.leadingObject tail) := by
  unfold leadingObject; infer_instance

instance spells_templatePiece : Spells templatePiece := by unfold templatePiece; infer_instance

instance spells_substitution : Spells g.substitution := by unfold substitution; infer_instance

instance spells_template : Spells g.template := by
  have : Keeps (fun t => t.isTemplatePart = true) templatePiece := by
    unfold templatePiece; infer_instance
  have : Keeps (fun t => t.isTemplatePart = true) g.substitution := keeps_substitutionNode
  exact spells_templateNode

/-! ### Markup -/

instance spells_markupExpression : Spells g.markupExpression := by
  unfold markupExpression; infer_instance

instance spells_markupWord {kind : LeafKind} [hk : kind.IsWord] : Spells (markupWord kind) := by
  let measure (cs : Text) : Nat := max (Lexeme.hyphenated cs) (Lexeme.word cs)
  have hmeasure (m : Text) (hm : m ∈ Lexeme.punctuators) (rest : Text) :
      measure (m ++ rest) < m.length :=
    max_lt (Lexeme.hyphenated_lt hm rest) (Lexeme.word_lt hm rest)
  exact spells_lexeme fun _ _ hn =>
    (hk.fits_iff _).2 (Lexeme.take_not_mem hmeasure (Nat.le_of_eq hn.symm))

instance spells_namePart {separator : Text} {part : Rule} [IsMark separator] [Spells part] :
    Spells (namePart separator part) := by
  unfold namePart; infer_instance

instance spells_tagName : Spells tagName := by unfold tagName; infer_instance

instance spells_tagAttribute : Spells g.tagAttribute := by unfold tagAttribute; infer_instance

instance spells_markupChild : Spells g.markupChild := by unfold markupChild; infer_instance

instance spells_markupRest : Spells g.markupRest := by unfold markupRest; infer_instance

instance spells_markupElement : Spells g.markupElement := by unfold markupElement; infer_instance

/-! ### Expressions -/

instance spells_memberName : Spells memberName := by unfold memberName; infer_instance

instance spells_index : Spells g.index := by unfold index; infer_instance

instance spells_optionalAccess {gap : Gap} : Spells (g.optionalAccess gap) := by
  unfold optionalAccess; infer_instance

instance spells_access {gap : Gap} {d : Cursor} : Spells (g.access gap d) := by
  unfold access
  split <;> infer_instance

instance spells_tagged {gap : Gap} {d : Cursor} : Spells (g.tagged gap d) := by
  unfold tagged; infer_instance

instance spells_choice {gap : Gap} {tail : Bool} : Spells (g.choice gap tail) := by
  unfold choice; infer_instance

instance spells_wordOperator {gap : Gap} {tail : Bool} {d : Cursor} :
    Spells (g.wordOperator gap tail d) := by
  unfold wordOperator; infer_instance

instance spells_stepAt {tail beforeIn : Bool} {level : Level} {d : Cursor} :
    Spells (g.stepAt tail level beforeIn d) := by
  -- Wherever the operator ahead becomes a leaf it has been found in a list of operators.
  have hmark (words : List Text) (hwords : words.all fun w =>
      Lexeme.punctuators.contains w && w != Lexeme.optionalMark)
      (h : operatorAhead d ∈ words) : IsMark (operatorAhead d) := by
    have hword := List.all_eq_true.1 hwords _ h
    rw [Bool.and_eq_true, List.contains_iff_mem, bne_iff_ne] at hword
    exact ⟨hword.1, hword.2⟩
  unfold stepAt
  refine keeps_ite_of (fun h => ?_) fun _ => keeps_ite_of (fun h => ?_) fun _ =>
    keeps_seq (k := keeps_ite_of (fun h => ?_) fun _ => keeps_ite (k := ?_))
  · have := hmark [['=']] (by decide) (List.mem_singleton.2 h)
    infer_instance
  · have := hmark assigning (by decide) (List.contains_iff_mem.1 h)
    infer_instance
  · have := hmark [['+', '+'], ['-', '-']] (by decide) (by simpa using h)
    infer_instance
  · split
    · next n hn =>
      obtain ⟨_, _, hlevels, -⟩ := List.lookup_eq_some_iff.1 hn
      have hmem : operatorAhead d ∈ binaryLevels.map (·.1) := by
        rw [hlevels]
        simp
      have := hmark (binaryLevels.map (·.1)) (by decide) hmem
      infer_instance
    · infer_instance

instance spells_step {tail beforeIn : Bool} {level : Level} :
    Spells (g.step tail level beforeIn) := by
  refine keeps_pick (h := fun c => ?_)
  split <;> infer_instance

instance spells_steps {tail : Bool} {level : Level} : Spells (g.steps tail level) := by
  unfold steps; infer_instance

instance spells_leadingValue {tail : Bool} : Spells (g.leadingValue tail) := by
  unfold leadingValue; infer_instance

instance spells_arrowBody {gap : Gap} {tail : Bool} : Spells (g.arrowBody gap tail) := by
  unfold arrowBody; infer_instance

instance stays_arrowAhead {gap : Gap} : Stays (arrowAhead gap) := stays_followedBy

instance spells_parenthesized {tail : Bool} : Spells (g.parenthesized tail) := by
  unfold parenthesized; infer_instance

instance spells_nameOrArrow {tail : Bool} : Spells (g.nameOrArrow tail) := by
  unfold nameOrArrow; infer_instance

instance spells_asynchronous {tail : Bool} : Spells (g.asynchronous tail) := by
  unfold asynchronous; infer_instance

instance spells_yield {tail : Bool} : Spells (g.yield tail) := by unfold yield; infer_instance

instance spells_classValue : Spells g.classValue := by unfold classValue; infer_instance

instance spells_importValue : Spells g.importValue := by unfold importValue; infer_instance

instance spells_wordPrefix {kind : NodeKind} [IsFalse kind.isTemplate] {tail : Bool} {c : Cursor} :
    Spells (g.wordPrefix kind tail c) := by
  unfold wordPrefix; infer_instance

instance spells_wordOperand {tail : Bool} : Spells (g.wordOperand tail) := by
  refine keeps_pick (h := fun c => ?_)
  split <;> infer_instance

instance spells_signed {tail : Bool} : Spells (g.signed tail) := by unfold signed; infer_instance

instance spells_privateTest {tail : Bool} : Spells (g.privateTest tail) := by
  unfold privateTest; infer_instance

instance spells_operand {tail : Bool} : Spells (g.operand tail) := by
  refine keeps_pick (h := fun c => ?_)
  split <;> infer_instance

instance spells_expression {tail : Bool} {level : Level} : Spells (g.expression tail level) := by
  unfold expression; infer_instance

instance spells_valueBeforeIn {tail : Bool} : Spells (g.valueBeforeIn tail) := by
  unfold valueBeforeIn; infer_instance

instance spells_construction {tail : Bool} : Spells (g.construction tail) := by
  -- What is repeated depends on where the gap before it ends.
  refine keeps_or (k := spells_node (h := keeps_seq (k := keeps_seq (k := keeps_seq
    (k := keeps_seq (h := keeps_many (h := keeps_pick (h := fun c => ?_))))))))
  split <;> infer_instance

/-! ### Imports and exports -/

instance spells_source : Spells source := by unfold source; infer_instance

instance spells_renamed {name : Rule} [Spells name] : Spells (renamed name) := by
  unfold renamed; infer_instance

instance spells_clauseName : Spells clauseName := by unfold clauseName; infer_instance

instance spells_clause {name : Rule} [Spells name] : Spells (clause name) := by
  unfold clause; infer_instance

instance spells_importClause : Spells importClause := by unfold importClause; infer_instance

instance spells_importStatement : Spells g.importStatement := by
  unfold importStatement; infer_instance

instance spells_exportClause : Spells exportClause := by unfold exportClause; infer_instance

/-! ### Statements -/

instance spells_expressionRest : Spells g.expressionRest := by unfold expressionRest; infer_instance

instance spells_expressionStatement : Spells g.expressionStatement := by
  unfold expressionStatement; infer_instance

instance spells_bindingTarget : Spells g.bindingTarget := by unfold bindingTarget; infer_instance

instance spells_declarator : Spells g.declarator := by unfold declarator; infer_instance

instance spells_declarators : Spells g.declarators := by unfold declarators; infer_instance

instance spells_variableDeclaration : Spells g.variableDeclaration := by
  refine keeps_pick (h := fun c => ?_)
  split <;> infer_instance

instance spells_letDeclares {gap : Gap} {reserved : List Text} :
    Spells (letDeclares gap reserved) := by
  unfold letDeclares; infer_instance

instance spells_declaration {operand : Bool} : Spells (g.declaration operand) := by
  unfold declaration; infer_instance

instance spells_functionOrClass : Spells g.functionOrClass := by
  unfold functionOrClass; infer_instance

instance tops_functionOrClass : Tops g.functionOrClass := by
  unfold functionOrClass classValue; infer_instance

instance spellsBehind_declared {alone : Bool} : SpellsBehind (declared alone) := by
  unfold declared; infer_instance

instance spellsBehind_declaredOr {alone : Bool} {value : Rule} [SpellsBehind value] :
    SpellsBehind (declaredOr alone value) := by
  unfold declaredOr; infer_instance

instance spells_functionOrClassStatement {alone : Bool} :
    Spells (g.functionOrClassStatement alone) := by
  unfold functionOrClassStatement; infer_instance

instance spells_exportDeclaration {gap : Gap} : Spells (g.exportDeclaration gap) := by
  unfold exportDeclaration; infer_instance

instance spells_exported : Spells g.exported := by unfold exported; infer_instance

instance spells_condition : Spells g.condition := by unfold condition; infer_instance

instance spells_body {alone : Bool} : Spells (g.body alone) := by unfold body; infer_instance

instance spells_ifStatement {alone : Bool} : Spells (g.ifStatement alone) := by
  unfold ifStatement; infer_instance

instance spells_caseBody : Spells g.caseBody := by unfold caseBody; infer_instance

instance spells_switchCase : Spells g.switchCase := by unfold switchCase; infer_instance

instance spells_switchStatement : Spells g.switchStatement := by
  unfold switchStatement; infer_instance

-- A choice between many rules has an instance of many parts.
set_option synthInstance.maxSize 400 in
instance spells_loopHead {awaits : Bool} : Spells (g.loopHead awaits) := by
  unfold loopHead; infer_instance

instance spells_forInStatement {alone : Bool} : Spells (g.forInStatement alone) := by
  unfold forInStatement; infer_instance

instance spells_loopControl : Spells g.loopControl := by unfold loopControl; infer_instance

instance spells_forStatement {alone : Bool} : Spells (g.forStatement alone) := by
  unfold forStatement; infer_instance

instance spells_whileStatement {alone : Bool} : Spells (g.whileStatement alone) := by
  unfold whileStatement; infer_instance

instance spells_doStatement : Spells g.doStatement := by unfold doStatement; infer_instance

instance spells_tryStatement : Spells g.tryStatement := by unfold tryStatement; infer_instance

instance spells_withStatement {alone : Bool} : Spells (g.withStatement alone) := by
  unfold withStatement; infer_instance

instance spells_jump {kind : NodeKind} [IsFalse kind.isTemplate] {word : Text} : Spells (jump kind word) := by
  unfold jump; infer_instance

instance spells_returnStatement : Spells g.returnStatement := by
  unfold returnStatement; infer_instance

instance spells_throwStatement : Spells g.throwStatement := by unfold throwStatement; infer_instance

instance spells_braceStatement {alone : Bool} : Spells (g.braceStatement alone) := by
  unfold braceStatement; infer_instance

instance spells_labeledStatement {alone : Bool} : Spells (g.labeledStatement alone) := by
  unfold labeledStatement; infer_instance

instance spells_otherStatement {alone : Bool} : Spells (g.otherStatement alone) := by
  unfold otherStatement; infer_instance

set_option synthInstance.maxSize 400 in
instance spells_wordStatement {alone : Bool} : Spells (g.wordStatement alone) := by
  unfold wordStatement; infer_instance

instance spells_statement {alone : Bool} : Spells (g.statement alone) := by
  refine keeps_pick (h := fun c => ?_)
  split <;> infer_instance

instance spells_block {operand : Bool} : Spells (g.block operand) := by unfold block; infer_instance

/-! ### The knot -/

theorem spells_rule (goal : Goal) : Spells (g.rule goal) := by
  cases goal with
  | statement alone => exact spells_statement
  | block operand => exact spells_block
  | expression tail level => exact spells_expression
  | object => exact spells_object
  | construction tail => exact spells_construction
  | markup => exact spells_markupElement

/-- A reading of any depth makes leaves and nodes that are as their kinds ask. -/
instance spells_upTo (n : Nat) (goal : Goal) : Spells (upTo n goal) := by
  induction n generalizing goal with
  | zero => exact keeps_fail
  | succ n ih => exact keeps_pick (h := fun _ => spells_rule goal)

instance spells_statements : Spells g.statements := by unfold statements; infer_instance

instance spells_program : Spells g.program := by unfold program; infer_instance

end Grammar

/-- The leaves of an accepted text have characters that fit their kinds, and its nodes parts that their
kinds admit. -/
theorem Tree.isSpelled_of_parse? {text : Text} {t : Tree} (h : parse? text = some t) :
    t.IsSpelled := by
  rw [parse?] at h
  split at h
  · next c hc =>
    cases h
    have hdone := Rule.Spells.areSpelled Grammar.spells_program hc areSpelled_nil
    have hkind : NodeKind.program.Admits c.done.reverse := NodeKind.program.admits_of_isFalse _
    simpa [hkind] using hdone
  · cases h

end ScriptStyle
