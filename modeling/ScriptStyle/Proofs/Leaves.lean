import Mathlib.Order.Lattice
import ScriptStyle.Proofs.Beginnings
import ScriptStyle.Proofs.Sites

/-!
# Leaves and their characters

Which kind a leaf has is decided by the rule that makes it, and a rule makes it of the characters
that it finds. So the kind says something about the characters: a word is never spelled like an
operator, and the mark of an optional access is the only leaf that is spelled as it is. This is
`LeafKind.Fits`. Likewise the kind of a node says something about its parts: a template has nothing
but pieces and substitutions, and a statement is never empty. This is `NodeKind.Admits`.

A rule that makes only trees with a property is one of the class `Rule.Keeps`, and one of the class
`Rule.Spells` where the property is that leaves fit and nodes admit their parts. All ways to combine
rules lead from rules of this class to rules of this class, so to see that a rule of the grammar
belongs to it takes no more than to look at what it is made of.
-/

namespace ScriptStyle

namespace Lexeme

open Characters (isNamePart isLetter)

/-! ## Words are no punctuators -/

/-- A punctuator begins with a character that no name begins with, unless it begins a
substitution. -/
theorem punctuator_cases {m : Text} (h : m ∈ punctuators) :
    (∃ c cs, m = c :: cs ∧ isNamePart c = false ∧ isLetter c = false ∧ c ≠ '\\' ∧
        c ≠ '#') ∨
      m = ['$', '\x7b'] := by
  have hall : punctuators.all fun m =>
      (m.head?.any fun c => !isNamePart c && !isLetter c && c != '\\' && c != '#') ||
        m == ['$', '\x7b'] := by
    decide
  have hm := List.all_eq_true.1 hall m h
  cases m with
  | nil => cases hm
  | cons c cs =>
    rcases Bool.or_eq_true_iff.1 hm with hm | hm
    · exact .inl ⟨c, cs, rfl, by simpa [and_assoc] using hm⟩
    · exact .inr (by simpa using hm)

variable {m : Text}

/-- A word ends before a punctuator does that the text begins with. -/
theorem word_lt (h : m ∈ punctuators) (rest : Text) : word (m ++ rest) < m.length := by
  rcases punctuator_cases h with ⟨c, cs, rfl, hc, -, hescape, -⟩ | rfl
  · have hrun : run isNamePart (c :: (cs ++ rest)) = 0 := by
      rw [run, List.takeWhile_cons_of_neg (by simp [hc]), List.length_nil]
    have hword : word (c :: (cs ++ rest)) = 0 := by
      rw [word, hrun]
      split
      · rfl
      · dsimp only [List.drop_zero]
        split
        · next heq => exact absurd (List.cons.inj heq).1 hescape
        · rfl
    rw [List.cons_append, hword]
    exact Nat.succ_pos _
  · have hword : word (['$', '\x7b'] ++ rest) = 1 := rfl
    rw [hword]
    exact Nat.one_lt_two

theorem privateName_lt (h : m ∈ punctuators) (rest : Text) :
    privateName (m ++ rest) < m.length := by
  rcases punctuator_cases h with ⟨c, cs, rfl, -, -, -, hhash⟩ | rfl
  · rw [List.cons_append, privateName]
    · exact Nat.succ_pos _
    · intro cs' heq
      exact hhash (List.cons.inj heq).1
  · exact Nat.succ_pos _

theorem hyphenated_lt (h : m ∈ punctuators) (rest : Text) : hyphenated (m ++ rest) < m.length := by
  rcases punctuator_cases h with ⟨c, cs, rfl, hc, hletter, -, -⟩ | rfl
  · have hstart : (isLetter c || c = '_' || c = '$') = false := by
      rw [hletter, Bool.false_or, Bool.or_eq_false_iff, decide_eq_false_iff_not,
        decide_eq_false_iff_not]
      constructor
      · rintro rfl
        cases hc
      · rintro rfl
        cases hc
    have hyphen : hyphenated (c :: (cs ++ rest)) = 0 := by
      simp only [hyphenated, List.head?_cons, hstart, Bool.false_and, if_neg Bool.false_ne_true]
    rw [List.cons_append, hyphen]
    exact Nat.succ_pos _
  · have hyphen : hyphenated (['$', '\x7b'] ++ rest) = 0 := rfl
    rw [hyphen]
    exact Nat.two_pos

/-- What a measure counts that ends before every punctuator is no punctuator. -/
theorem take_not_mem {measure : Text → Nat}
    (h : ∀ m ∈ punctuators, ∀ rest, measure (m ++ rest) < m.length) {cs : Text} {n : Nat}
    (hn : n ≤ measure cs) : cs.take n ∉ punctuators := by
  intro hm
  have hlt := h _ hm (cs.drop n)
  rw [List.take_append_drop] at hlt
  have hle := List.length_take_le n cs
  omega

end Lexeme

/-- The characters may be those of a leaf of the kind. Words are spelled like no punctuator, and only
the mark of an optional access is spelled as it is. Operators and words of the language begin in the
line of their place. -/
def LeafKind.Fits (chars : Text) : LeafKind → Prop
  | keyword => chars ∉ Lexeme.punctuators ∧ Text.BeginsInLine chars
  | punctuator => chars ≠ Lexeme.optionalMark ∧ Text.BeginsInLine chars
  | name | property | shorthand => chars ∉ Lexeme.punctuators
  | optionalChain => chars = Lexeme.optionalMark
  | blank | comment | number | string | regex | template => True

/-- The leaves of a kind are words. -/
class LeafKind.IsWord (kind : LeafKind) : Prop where
  fits_iff : ∀ chars, kind.Fits chars ↔ chars ∉ Lexeme.punctuators

namespace LeafKind

instance isWord_name : IsWord name := ⟨fun _ => Iff.rfl⟩

instance isWord_property : IsWord property := ⟨fun _ => Iff.rfl⟩

instance isWord_shorthand : IsWord shorthand := ⟨fun _ => Iff.rfl⟩

end LeafKind

/-- The tree is a part of a template: a piece outside its substitutions, or a substitution. -/
def Tree.isTemplatePart : Tree → Bool
  | leaf .template _ => true
  | node .substitution _ => true
  | _ => false

/-- A condition does not hold. Where it can be computed, this is found like an instance. -/
class IsFalse (condition : Bool) : Prop where
  eq_false : condition = false

instance isFalse_false : IsFalse false := ⟨rfl⟩

namespace NodeKind

/-- Templates. -/
abbrev isTemplate : NodeKind → Bool
  | template => true
  | _ => false

/-- The nodes that are never empty and begin in the line of their place: functions, classes, fields,
and the statements without a body. -/
abbrev begins : NodeKind → Bool
  | varDeclaration | lexicalDeclaration | expressionStatement | returnStatement | throwStatement
  | breakStatement | continueStatement | importStatement | debuggerStatement | emptyStatement
  | exportStatement | fieldDefinition | functionDeclaration | classDeclaration | function
  | classExpression => true
  | _ => false

/-- The parts may be those of a node of the kind. -/
structure Admits (k : NodeKind) (parts : List Tree) : Prop where
  /-- A template is made of its pieces and substitutions. -/
  isTemplatePart : k.isTemplate = true → ∀ t ∈ parts, t.isTemplatePart = true
  /-- The node has a first character in the line where it begins. -/
  beginsInLine : k.begins = true → Text.BeginsInLine (Tree.textOf parts)

/-- Nodes of the other kinds may have any parts. -/
theorem admits_of_isFalse (k : NodeKind) [ht : IsFalse k.isTemplate] [hb : IsFalse k.begins]
    (parts : List Tree) : k.Admits parts where
  isTemplatePart h := absurd (ht.eq_false.symm.trans h) Bool.false_ne_true
  beginsInLine h := absurd (hb.eq_false.symm.trans h) Bool.false_ne_true

theorem admits_of_beginsInLine {k : NodeKind} [ht : IsFalse k.isTemplate] {parts : List Tree}
    (h : Text.BeginsInLine (Tree.textOf parts)) : k.Admits parts where
  isTemplatePart hk := absurd (ht.eq_false.symm.trans hk) Bool.false_ne_true
  beginsInLine _ := h

end NodeKind

namespace Tree

mutual

/-- All leaves of a tree have characters that fit their kind, and all nodes parts that their kind
admits. -/
def IsSpelled : Tree → Prop
  | leaf kind chars => kind.Fits chars
  | missing _ => True
  | node k children => k.Admits children ∧ AreSpelled children

/-- So have all leaves and nodes of some trees. -/
def AreSpelled : List Tree → Prop
  | [] => True
  | t :: ts => t.IsSpelled ∧ AreSpelled ts

end

@[simp] theorem isSpelled_leaf (kind : LeafKind) (chars : Text) :
    (leaf kind chars).IsSpelled ↔ kind.Fits chars := by rw [IsSpelled]

@[simp] theorem isSpelled_node (k : NodeKind) (ts : List Tree) :
    (node k ts).IsSpelled ↔ k.Admits ts ∧ AreSpelled ts := by rw [IsSpelled]

@[simp] theorem areSpelled_nil : AreSpelled [] := by
  rw [AreSpelled]
  trivial

@[simp] theorem areSpelled_cons (t : Tree) (ts : List Tree) :
    AreSpelled (t :: ts) ↔ t.IsSpelled ∧ AreSpelled ts := by rw [AreSpelled]

@[simp] theorem areSpelled_append (ts us : List Tree) :
    AreSpelled (ts ++ us) ↔ AreSpelled ts ∧ AreSpelled us := by
  induction ts with
  | nil => simp
  | cons t ts ih => simp [ih, and_assoc]

@[simp] theorem areSpelled_reverse (ts : List Tree) : AreSpelled ts.reverse ↔ AreSpelled ts := by
  induction ts with
  | nil => simp
  | cons t ts ih => simp [ih, and_comm]

theorem areSpelled_iff {ts : List Tree} : AreSpelled ts ↔ ∀ t ∈ ts, t.IsSpelled := by
  induction ts with
  | nil => simp
  | cons t ts ih => simp [ih]

/-- What stands in spelled trees is spelled. -/
theorem isSpelled_of_holds {ts behind : List Tree} {before : Text} {u : Tree}
    (h : Holds ts before u behind) (hts : AreSpelled ts) : u.IsSpelled := by
  induction h with
  | here u ts => exact ((areSpelled_cons _ _).1 hts).1
  | later t _ ih => exact ih ((areSpelled_cons _ _).1 hts).2
  | inside k ts _ ih => exact ih ((isSpelled_node _ _).1 ((areSpelled_cons _ _).1 hts).1).2

/-- A leaf that stands in spelled trees has characters that fit its kind. -/
theorem fits_of_holds {ts behind : List Tree} {before chars : Text} {kind : LeafKind}
    (h : Holds ts before (leaf kind chars) behind) (hts : AreSpelled ts) : kind.Fits chars :=
  (isSpelled_leaf _ _).1 (isSpelled_of_holds h hts)

/-- A node that stands in spelled trees has parts that its kind admits. -/
theorem admits_of_holds {ts behind parts : List Tree} {before : Text} {k : NodeKind}
    (h : Holds ts before (node k parts) behind) (hts : AreSpelled ts) : k.Admits parts :=
  ((isSpelled_node _ _).1 (isSpelled_of_holds h hts)).1

/-- A list keeps its parts when it is settled as a literal or a pattern. -/
theorem isSpelled_of_settled? {t u : Tree} (h : t.settled? = some u) (ht : t.IsSpelled) :
    u.IsSpelled := by
  have hlist (k : NodeKind) (ts : List Tree) [IsFalse k.isTemplate] [IsFalse k.begins]
      (hts : AreSpelled ts) : (node k ts).IsSpelled :=
    (isSpelled_node k ts).2 ⟨k.admits_of_isFalse ts, hts⟩
  unfold settled? at h
  split at h
  · have hts := ((isSpelled_node _ _).1 ht).2
    repeat' split at h
    all_goals cases h
    all_goals exact hlist _ _ hts
  · have hts := ((isSpelled_node _ _).1 ht).2
    repeat' split at h
    all_goals cases h
    all_goals exact hlist _ _ hts
  · cases h
    exact ht

end Tree

/-! ## Rules -/

open Tree (AreSpelled)

open Text (BeginsInLine)

/-- The trees that a rule makes have a property. -/
class Rule.Keeps (P : Tree → Prop) (r : Rule) : Prop where
  /-- If what has been read has the property, what has been read behind the rule has it too. -/
  keeps : ∀ {c d : Cursor}, r.run c = some d → (∀ t ∈ c.done, P t) → ∀ t ∈ d.done, P t

/-- The leaves that a rule makes have characters that fit their kinds, and its nodes parts that their
kinds admit. -/
abbrev Rule.Spells (r : Rule) : Prop := r.Keeps Tree.IsSpelled

theorem Rule.Spells.of_areSpelled {r : Rule}
    (h : ∀ {c d : Cursor}, r.run c = some d → AreSpelled c.done → AreSpelled d.done) : r.Spells :=
  ⟨fun hrun hc => Tree.areSpelled_iff.1 (h hrun (Tree.areSpelled_iff.2 hc))⟩

theorem Rule.Spells.areSpelled {r : Rule} (h : r.Spells) {c d : Cursor} (hrun : r.run c = some d)
    (hc : AreSpelled c.done) : AreSpelled d.done :=
  Tree.areSpelled_iff.2 (h.keeps hrun (Tree.areSpelled_iff.1 hc))

namespace Cursor

theorem areSpelled_shift {kind : LeafKind} {n : Nat} {c : Cursor}
    (h : kind.Fits (c.rest.take n)) (hc : AreSpelled c.done) :
    AreSpelled (c.shift kind n).done := by
  unfold shift
  split
  · exact hc
  · simp [h, hc]

end Cursor

namespace Gap

theorem areSpelled_step (g : Gap) {c : Cursor} (hc : AreSpelled c.done) :
    AreSpelled (g.step c).1.done := by
  have hblank (n : Nat) : AreSpelled (c.shift .blank n).done := Cursor.areSpelled_shift trivial hc
  unfold step
  split
  · exact hc
  · dsimp only
    split
    · exact hblank _
    · exact Cursor.areSpelled_shift trivial (hblank _)

theorem areSpelled_passAtMost (g : Gap) (fuel : Nat) {c : Cursor} (hc : AreSpelled c.done) :
    AreSpelled (g.passAtMost fuel c).1.done := by
  induction fuel generalizing c with
  | zero => exact hc
  | succ fuel ih =>
    have hstep := g.areSpelled_step hc
    rw [passAtMost]
    split
    · next d e h => rwa [h] at hstep
    · next d h =>
      rw [h] at hstep
      exact ih hstep

/-- Blanks and comments fit whatever their characters are. -/
theorem areSpelled_pass (g : Gap) {c : Cursor} (hc : AreSpelled c.done) :
    AreSpelled (g.pass c).1.done := by
  have hstep := g.areSpelled_step hc
  rw [pass]
  split
  · next d e h => rwa [h] at hstep
  · next d h =>
    rw [h] at hstep
    exact g.areSpelled_passAtMost _ hstep

end Gap

namespace Rule

open Lexeme (IsVisible IsMark)

/-! ### Ways to combine rules -/

section Combined

variable {P : Tree → Prop} {a b r : Rule}

instance keeps_of_stays [h : Stays r] : Keeps P r where
  keeps hrun hc := by
    rw [h.eq_of_run hrun]
    exact hc

instance keeps_fail : Keeps P fail := ⟨fun h => by cases h⟩

instance keeps_seq [h : Keeps P a] [k : Keeps P b] : Keeps P (a >> b) where
  keeps hrun hc := by
    obtain ⟨e, he, hd⟩ := run_seq hrun
    exact k.keeps hd (h.keeps he hc)

instance keeps_or [h : Keeps P a] [k : Keeps P b] : Keeps P (a <|> b) where
  keeps hrun hc := by
    rcases run_or hrun with hd | ⟨-, hd⟩
    · exact h.keeps hd hc
    · exact k.keeps hd hc

instance keeps_oneOf_nil : Keeps P (oneOf []) := keeps_fail

instance keeps_oneOf_cons {rs : List Rule} [Keeps P r] [Keeps P (oneOf rs)] :
    Keeps P (oneOf (r :: rs)) :=
  keeps_or

instance keeps_oneOf_map_nil {f : Rule → Rule} : Keeps P (oneOf ([].map f)) := keeps_fail

instance keeps_oneOf_map_cons {f : Rule → Rule} {rs : List Rule} [Keeps P (f r)]
    [Keeps P (oneOf (rs.map f))] : Keeps P (oneOf ((r :: rs).map f)) :=
  keeps_or

theorem keeps_ite_of {p : Prop} [Decidable p] (h : p → Keeps P a) (k : ¬p → Keeps P b) :
    Keeps P (if p then a else b) := by
  split
  · next hp => exact h hp
  · next hp => exact k hp

instance keeps_ite {p : Prop} [Decidable p] [h : Keeps P a] [k : Keeps P b] :
    Keeps P (if p then a else b) :=
  keeps_ite_of (fun _ => h) fun _ => k

instance keeps_pick {f : Cursor → Rule} [h : ∀ c, Keeps P (f c)] : Keeps P (pick f) where
  keeps {c _} hrun hc := (h c).keeps hrun hc

instance keeps_optional [Keeps P r] : Keeps P r.optional := keeps_or (a := r) (b := skip)

theorem all_repeatAtMost [h : Keeps P r] (fuel : Nat) {c : Cursor} (hc : ∀ t ∈ c.done, P t) :
    ∀ t ∈ (r.repeatAtMost fuel c).done, P t := by
  induction fuel generalizing c with
  | zero => exact hc
  | succ fuel ih =>
    rw [repeatAtMost]
    split
    · next d hd => exact ih (h.keeps hd hc)
    · exact hc

instance keeps_many [h : Keeps P r] : Keeps P r.many where
  keeps hrun hc := by
    rcases run_many hrun with ⟨e, he, rfl⟩ | ⟨-, rfl⟩
    · exact all_repeatAtMost _ (h.keeps he hc)
    · exact hc

end Combined

/-! ### Nodes -/

section Nodes

variable {kind : NodeKind} {r : Rule}

/-- What stands before a rule and what it reads make a spelled node. -/
theorem isSpelled_node_of_run [h : Spells r] {c e : Cursor} (hrun : r.run c = some e)
    (hc : AreSpelled c.done) (hkind : kind.Admits e.done.reverse) :
    (Tree.node kind e.done.reverse).IsSpelled := by
  have hparts : AreSpelled e.done := Spells.areSpelled h hrun hc
  exact (Tree.isSpelled_node _ _).2 ⟨hkind, (Tree.areSpelled_reverse _).2 hparts⟩

/-- A node that the parts behind the ones at hand make. -/
theorem spells_node_of [Spells r]
    (hkind : ∀ {rest : List Char} {d : Cursor}, r.run ⟨[], rest⟩ = some d →
      kind.Admits d.done.reverse) : Spells (node kind r) := by
  refine .of_areSpelled fun hrun hc => ?_
  obtain ⟨e, he, rfl⟩ := run_node hrun
  have hnode := isSpelled_node_of_run he Tree.areSpelled_nil (hkind he)
  exact (Tree.areSpelled_cons _ _).2 ⟨hnode, hc⟩

instance spells_node [h : Spells r] [IsFalse kind.isTemplate] [IsFalse kind.begins] :
    Spells (node kind r) :=
  spells_node_of fun _ => kind.admits_of_isFalse _

instance spells_node_of_starts [Starts r] [Spells r] [IsFalse kind.isTemplate] :
    Spells (node kind r) :=
  spells_node_of fun hrun => NodeKind.admits_of_beginsInLine (Starts.beginsInLine hrun)

instance spells_extend [Spells r] [IsFalse kind.isTemplate] [IsFalse kind.begins] :
    Spells (extend kind r) := by
  refine .of_areSpelled fun hrun hc => ?_
  obtain ⟨t, ts, e, ht, he, rfl⟩ := run_extend hrun
  rw [ht, Tree.areSpelled_cons] at hc
  have hnode := isSpelled_node_of_run he (by simpa using hc.1) (kind.admits_of_isFalse _)
  exact (Tree.areSpelled_cons _ _).2 ⟨hnode, hc.2⟩

instance spells_resume [Spells r] [IsFalse kind.isTemplate] [IsFalse kind.begins] :
    Spells (resume kind r) := by
  refine .of_areSpelled fun hrun hc => ?_
  obtain ⟨k, ts, us, e, ht, he, rfl⟩ := run_resume hrun
  rw [ht, Tree.areSpelled_cons, Tree.isSpelled_node] at hc
  have hnode := isSpelled_node_of_run he (by simpa using hc.1.2) (kind.admits_of_isFalse _)
  exact (Tree.areSpelled_cons _ _).2 ⟨hnode, hc.2⟩

instance spells_settle : Spells settle := by
  refine .of_areSpelled fun hrun hc => ?_
  obtain ⟨t, ts, u, ht, hu, rfl⟩ := run_reshape hrun
  rw [ht, Tree.areSpelled_cons] at hc
  exact (Tree.areSpelled_cons u ts).2 ⟨Tree.isSpelled_of_settled? hu hc.1, hc.2⟩

end Nodes

/-! ### Parts of templates -/

instance keeps_templateLexeme {measure : Text → Nat} :
    Keeps (fun t => t.isTemplatePart = true) (lexeme .template measure) where
  keeps hrun hc := by
    obtain ⟨n, -, rfl⟩ := run_lexeme hrun
    rw [Cursor.shift, if_neg (Nat.succ_ne_zero n)]
    simpa using ⟨rfl, hc⟩

instance keeps_substitutionNode {r : Rule} :
    Keeps (fun t => t.isTemplatePart = true) (node .substitution r) where
  keeps hrun hc := by
    obtain ⟨e, -, rfl⟩ := run_node hrun
    simpa using ⟨rfl, hc⟩

/-- A template is a node of such parts. -/
theorem spells_templateNode {r : Rule} [h : Keeps (fun t => t.isTemplatePart = true) r] [Spells r] :
    Spells (node .template r) := by
  refine spells_node_of fun {rest d} hrun => ⟨fun _ t ht => ?_, nofun⟩
  exact h.keeps hrun (by simp) t (List.mem_reverse.1 ht)

/-! ### Rules for a construct that has begun -/

section Behind

variable {kind : NodeKind} {a b r : Rule}

/-- A rule leaves a tree on top that begins in the line of its place. -/
class Tops (r : Rule) : Prop where
  exists_top : ∀ {c d : Cursor}, r.run c = some d →
    ∃ t ts, d.done = t :: ts ∧ BeginsInLine t.text

instance tops_seq [k : Tops b] : Tops (a >> b) where
  exists_top hrun := by
    obtain ⟨e, -, hd⟩ := run_seq hrun
    exact k.exists_top hd

instance tops_or [h : Tops a] [k : Tops b] : Tops (a <|> b) where
  exists_top hrun := by
    rcases run_or hrun with hd | ⟨-, hd⟩
    · exact h.exists_top hd
    · exact k.exists_top hd

instance tops_node [Starts r] : Tops (node kind r) where
  exists_top hrun := by
    obtain ⟨e, he, rfl⟩ := run_node hrun
    have hbegins := Starts.beginsInLine he
    exact ⟨_, _, rfl, by rwa [Tree.text_node]⟩

/-- Behind a tree that begins in the line of its place, a rule makes only leaves that fit and nodes
that admit their parts. -/
class SpellsBehind (r : Rule) : Prop where
  /-- If what has been read is spelled, what has been read behind the rule is so too. -/
  areSpelled : ∀ {c d : Cursor} {t : Tree} {ts : List Tree}, r.run c = some d → c.done = t :: ts →
    BeginsInLine t.text → AreSpelled c.done → AreSpelled d.done

instance spellsBehind_of_spells [h : Spells r] : SpellsBehind r where
  areSpelled hrun _ _ hc := Spells.areSpelled h hrun hc

instance spellsBehind_seq [h : SpellsBehind a] [k : Spells b] : SpellsBehind (a >> b) where
  areSpelled hrun htop ht hc := by
    obtain ⟨e, he, hd⟩ := run_seq hrun
    exact Spells.areSpelled k hd (h.areSpelled he htop ht hc)

instance spellsBehind_stays_seq [h : Stays a] [k : SpellsBehind b] : SpellsBehind (a >> b) where
  areSpelled hrun htop ht hc := by
    obtain ⟨e, he, hd⟩ := run_seq hrun
    rw [h.eq_of_run he] at hd
    exact k.areSpelled hd htop ht hc

instance spellsBehind_or [h : SpellsBehind a] [k : SpellsBehind b] : SpellsBehind (a <|> b) where
  areSpelled hrun htop ht hc := by
    rcases run_or hrun with hd | ⟨-, hd⟩
    · exact h.areSpelled hd htop ht hc
    · exact k.areSpelled hd htop ht hc

/-- A node begins as what stood before the rule that makes it. -/
theorem admits_of_run [IsFalse kind.isTemplate] {c e : Cursor} (hrun : r.run c = some e)
    (hc : BeginsInLine (Tree.textOf c.done.reverse)) : kind.Admits e.done.reverse := by
  obtain ⟨w, -, hw⟩ := exists_textOf_done hrun
  have hbegins : BeginsInLine (Tree.textOf e.done.reverse) := by
    rw [hw]
    exact hc.append w
  exact NodeKind.admits_of_beginsInLine hbegins

instance spellsBehind_extend [Spells r] [IsFalse kind.isTemplate] :
    SpellsBehind (extend kind r) where
  areSpelled hrun htop ht hc := by
    obtain ⟨t, ts, e, htop', he, rfl⟩ := run_extend hrun
    cases htop.symm.trans htop'
    rw [htop, Tree.areSpelled_cons] at hc
    have hkind : kind.Admits e.done.reverse := admits_of_run he (by simpa using ht)
    have hnode := isSpelled_node_of_run he (by simpa using hc.1) hkind
    exact (Tree.areSpelled_cons _ _).2 ⟨hnode, hc.2⟩

instance spellsBehind_resume [Spells r] [IsFalse kind.isTemplate] :
    SpellsBehind (resume kind r) where
  areSpelled hrun htop ht hc := by
    obtain ⟨k, parts, ts, e, htop', he, rfl⟩ := run_resume hrun
    cases htop.symm.trans htop'
    rw [htop, Tree.areSpelled_cons, Tree.isSpelled_node] at hc
    have hkind : kind.Admits e.done.reverse := admits_of_run he (by simpa using ht)
    have hnode := isSpelled_node_of_run he (by simpa using hc.1.2) hkind
    exact (Tree.areSpelled_cons _ _).2 ⟨hnode, hc.2⟩

-- A sequence whose parts need no tree before them is one by `keeps_seq`. Only what that leaves comes
-- here, such as a statement that is made of the value read before it.
instance (priority := low) spells_tops_seq [h : Spells a] [k : Tops a] [l : SpellsBehind b] :
    Spells (a >> b) := by
  refine .of_areSpelled fun hrun hc => ?_
  obtain ⟨e, he, hd⟩ := run_seq hrun
  obtain ⟨t, ts, htop, ht⟩ := k.exists_top he
  exact l.areSpelled hd htop ht (Spells.areSpelled h he hc)

end Behind

/-! ### Lexemes -/

section Lexemes

variable {kind : LeafKind} {measure : Text → Nat}

theorem spells_lexeme
    (h : ∀ cs n, measure cs = n + 1 → kind.Fits (cs.take (n + 1))) :
    Spells (lexeme kind measure) := by
  refine .of_areSpelled fun hrun hc => ?_
  obtain ⟨n, hn, rfl⟩ := run_lexeme hrun
  exact Cursor.areSpelled_shift (h _ _ hn) hc

instance spells_blank : Spells (lexeme .blank measure) := spells_lexeme fun _ _ _ => trivial

instance spells_comment : Spells (lexeme .comment measure) := spells_lexeme fun _ _ _ => trivial

instance spells_number : Spells (lexeme .number measure) := spells_lexeme fun _ _ _ => trivial

instance spells_string : Spells (lexeme .string measure) := spells_lexeme fun _ _ _ => trivial

instance spells_regex : Spells (lexeme .regex measure) := spells_lexeme fun _ _ _ => trivial

instance spells_template : Spells (lexeme .template measure) := spells_lexeme fun _ _ _ => trivial

/-- A lexeme that has one spelling only. -/
theorem spells_of_prefix {spelling : Text} (hfits : kind.Fits spelling)
    (h : ∀ cs, measure cs ≠ 0 → measure cs = spelling.length ∧ spelling <+: cs) :
    Spells (lexeme kind measure) := by
  refine spells_lexeme fun cs n hn => ?_
  obtain ⟨hlength, hprefix⟩ := h cs (by rw [hn]; exact Nat.succ_ne_zero n)
  rw [← hn, hlength, ← List.prefix_iff_eq_take.1 hprefix]
  exact hfits

theorem spelled_ne_zero {spelling cs : Text} (h : spelled spelling cs ≠ 0) :
    spelled spelling cs = spelling.length ∧ spelling <+: cs := by
  unfold spelled at h ⊢
  split at h
  · next hprefix => exact ⟨if_pos hprefix, List.isPrefixOf_iff_prefix.1 hprefix⟩
  · exact absurd rfl h

instance spells_mark {spelling : Text} [hm : IsMark spelling] : Spells (mark spelling) :=
  spells_of_prefix ⟨hm.ne, Lexeme.beginsInLine_of_mem hm.mem⟩ fun _ => spelled_ne_zero

instance spells_optionalChain : Spells (lexeme .optionalChain (spelled ['?', '.'])) :=
  spells_of_prefix rfl fun _ => spelled_ne_zero

instance spells_operator {spelling : Text} [hm : IsMark spelling] : Spells (operator spelling) := by
  refine spells_of_prefix ⟨hm.ne, Lexeme.beginsInLine_of_mem hm.mem⟩ fun cs h => ?_
  split at h
  · next htake =>
    rw [if_pos htake]
    exact ⟨rfl, htake ▸ List.take_prefix _ cs⟩
  · exact absurd rfl h

instance spells_keyword {spelling : Text} : Spells (keyword spelling) := by
  refine spells_lexeme fun cs n hn => ⟨Lexeme.take_not_mem (fun _ => Lexeme.word_lt) ?_,
    IsVisible.beginsInLine (h := Lexeme.isVisible_keyword) hn⟩
  split at hn
  · next htake =>
    rw [← hn, ← htake]
    exact List.length_take_le _ cs
  · cases hn

instance spells_anyWord [hk : kind.IsWord] : Spells (anyWord kind) :=
  spells_lexeme fun _ _ hn =>
    (hk.fits_iff _).2 (Lexeme.take_not_mem (fun _ => Lexeme.word_lt) hn.ge)

instance spells_privateName : Spells (lexeme .property Lexeme.privateName) :=
  spells_lexeme fun _ _ hn => Lexeme.take_not_mem (fun _ => Lexeme.privateName_lt) hn.ge

end Lexemes

/-! ### Lexemes after a gap -/

section Gaps

variable {gap : Gap} {spelling : Text} {r : Rule}

instance spells_past : Spells (past gap) := by
  refine .of_areSpelled fun hrun hc => ?_
  have hpass := gap.areSpelled_pass hc
  rwa [run_past hrun] at hpass

instance spells_ended {operand : Bool} : Spells (ended operand) := by
  refine .of_areSpelled fun hrun hc => ?_
  have hpass := (Gap.mk true operand).areSpelled_pass hc
  rwa [run_ended hrun] at hpass

instance spells_symbol [IsMark spelling] : Spells (symbol gap spelling) := by
  unfold symbol
  infer_instance

instance spells_wordAfter : Spells (wordAfter gap spelling) := by
  unfold wordAfter
  infer_instance

instance spells_semicolon {operand : Bool} : Spells (semicolon operand) := by
  unfold semicolon
  infer_instance

instance spells_mayEnd {operand : Bool} : Spells (mayEnd operand) := by
  unfold mayEnd
  infer_instance

instance spells_symbolBehind {gap : Cursor → Gap} [IsMark spelling] :
    Spells (symbolBehind gap spelling) := by
  unfold symbolBehind
  infer_instance

instance spells_commaSeparated {gap : Cursor → Gap} [Spells r] :
    Spells (commaSeparated gap r) := by
  unfold commaSeparated
  infer_instance

instance spells_withHoles [Spells r] : Spells (withHoles r) := by
  unfold withHoles
  infer_instance

instance spells_variableName : Spells variableName := by
  unfold variableName
  infer_instance

end Gaps

end Rule

end ScriptStyle
