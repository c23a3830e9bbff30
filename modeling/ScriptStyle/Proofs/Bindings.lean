import ScriptStyle.Proofs.Nesting
import ScriptStyle.Proofs.Spots
import ScriptStyle.Syntax.Binding

/-!
# The names that declarations bind

A declarator binds the names in its pattern, which may be nested to any depth. `Tree.Binds` says
which these are by one rule for each form of a pattern: a name binds itself, a list in brackets or
braces binds what its parts bind, a pattern with a default value binds what the pattern binds, and
so on. Keys, default values and initializers have no rule, so they bind nothing.

The outline of a tree lists the names of a declaration without asking whether its patterns are
patterns. `Model.listed_declarations` compares the two: the listed names are the bound names, each
with its own span and in the order of the text, except for one word. The grammar takes `undefined`
for a word of the language wherever an expression may begin, and such a leaf is not listed, although
it is a name like any other in a pattern.
-/

namespace ScriptStyle

/-- A name that a pattern binds. -/
structure Binder where
  /-- The kind of the leaf that spells the name. -/
  kind : LeafKind
  /-- The name and where it stands. -/
  identifier : Identifier

namespace Binder

/-- The name that the characters of a leaf spell at a place. -/
def ofLeaf (kind : LeafKind) (p : Position) (chars : Text) : Binder := ⟨kind, chars, .cover p chars⟩

/-- The names among some binders that are no words of the language. -/
def listed (bs : List Binder) : List Identifier :=
  (bs.filter (·.kind ≠ .keyword)).map (·.identifier)

theorem listed_append (bs cs : List Binder) : listed (bs ++ cs) = listed bs ++ listed cs := by
  rw [listed, List.filter_append, List.map_append, listed, listed]

theorem listed_eq_iff (bs : List Binder) :
    listed bs = bs.map (·.identifier) ↔ ∀ b ∈ bs, b.kind ≠ .keyword := by
  constructor
  · intro h
    have hlength := congrArg List.length h
    rw [listed, List.length_map, List.length_map] at hlength
    intro b hb
    have hall := List.length_filter_eq_length_iff.1 hlength b hb
    exact of_decide_eq_true hall
  · intro h
    rw [listed, List.filter_eq_self.2 fun b hb => decide_eq_true (h b hb)]

end Binder

namespace Tree

/-! ## What a pattern binds -/

/-- A leaf between the parts of a pattern: a bracket or another sign, a blank or a comment. -/
def isMark (t : Tree) : Bool := t.isTrivia || t.isLeaf .punctuator

mutual

/-- A tree that begins at a place is a pattern in a slot and binds some names. -/
inductive Binds : Slot → Position → Tree → List Binder → Prop where
  | name (p : Position) (chars : Text) : Binds .target p (leaf .name chars) [.ofLeaf .name p chars]
  /-- The one word of the language that is a name in a pattern. -/
  | word (p : Position) : Binds .target p (leaf .keyword "undefined".toList)
      [.ofLeaf .keyword p "undefined".toList]
  | brackets {p : Position} {k : NodeKind} {ts : List Tree} {bs : List Binder}
      (hk : k = .array ∨ k = .arrayPattern) (h : BindAll .element p ts bs) :
      Binds .target p (node k ts) bs
  | braces {p : Position} {k : NodeKind} {ts : List Tree} {bs : List Binder}
      (hk : k = .object ∨ k = .objectPattern) (h : BindAll .property p ts bs) :
      Binds .target p (node k ts) bs
  | element {p : Position} {t : Tree} {bs : List Binder} (h : Binds .target p t bs) :
      Binds .element p t bs
  /-- A target and behind it the sign and the default value. -/
  | elementDefault {p : Position} {t : Tree} {bs : List Binder} (h : Binds .target p t bs)
      (behind : List Tree) : Binds .element p (node .assignment (t :: behind)) bs
  /-- The target that gathers what is left. -/
  | rest {slot : Slot} {p : Position} (marks : List Tree) {t : Tree} {bs : List Binder}
      (hslot : slot ≠ .target) (hmarks : ∀ u ∈ marks, u.isMark = true)
      (h : Binds .target (advanceAll p marks) t bs) : Binds slot p (node .spread (marks ++ [t])) bs
  | shorthand (p : Position) (chars : Text) :
      Binds .property p (leaf .shorthand chars) [.ofLeaf .shorthand p chars]
  | shorthandDefault (p : Position) (chars : Text) (behind : List Tree) :
      Binds .property p (node .shorthandDefault (leaf .shorthand chars :: behind))
        [.ofLeaf .shorthand p chars]
  /-- A key with its colon, whatever the key is, and behind it what receives the value. -/
  | pair {p : Position} (key : List Tree) {t : Tree} {bs : List Binder}
      (h : Binds .element (advanceAll p key) t bs) : Binds .property p (node .pair (key ++ [t])) bs

/-- The parts of a list are patterns in slots of one kind, with marks between them, and bind some
names one after the other. -/
inductive BindAll : Slot → Position → List Tree → List Binder → Prop where
  | nil (slot : Slot) (p : Position) : BindAll slot p [] []
  | mark {slot : Slot} {p : Position} {t : Tree} {ts : List Tree} {bs : List Binder}
      (ht : t.isMark = true) (hs : BindAll slot (t.advance p) ts bs) : BindAll slot p (t :: ts) bs
  | part {slot : Slot} {p : Position} {t : Tree} {ts : List Tree} {bs cs : List Binder}
      (h : Binds slot p t bs) (hs : BindAll slot (t.advance p) ts cs) :
      BindAll slot p (t :: ts) (bs ++ cs)

end

/-- The parts of a declaration bind some names: its declarators begin with patterns, and there are
only leaves between them. -/
inductive Declares : Position → List Tree → List Binder → Prop where
  | nil (p : Position) : Declares p [] []
  | leaf {p : Position} {kind : LeafKind} {chars : Text} {ts : List Tree} {bs : List Binder}
      (hs : Declares (p.advance chars) ts bs) : Declares p (leaf kind chars :: ts) bs
  | declarator {p : Position} {t : Tree} {behind ts : List Tree} {bs cs : List Binder}
      (h : Binds .target p t bs)
      (hs : Declares ((node .declarator (t :: behind)).advance p) ts cs) :
      Declares p (node .declarator (t :: behind) :: ts) (bs ++ cs)

/-! ## What is listed -/

theorem bound_of_isMark {t : Tree} (h : t.isMark = true) (b : Binding) (p : Position) :
    bound b p t = [] := by
  cases t with
  | leaf kind chars => cases kind <;> first | rfl | cases h
  | missing spelling => cases h
  | node k ts => cases h

theorem boundAll_marks {marks : List Tree} (hmarks : ∀ u ∈ marks, u.isMark = true) (b : Binding)
    (p : Position) (t : Tree) :
    boundAll b p (marks ++ [t]) = bound b (advanceAll p marks) t := by
  induction marks generalizing p with
  | nil => exact List.append_nil _
  | cons u marks ih =>
    obtain ⟨hu, hmarks⟩ := List.forall_mem_cons.1 hmarks
    rw [List.cons_append, boundAll, bound_of_isMark hu, ih hmarks]
    rfl

theorem boundLast_concat (p : Position) (ts : List Tree) (t : Tree) :
    boundLast p (ts ++ [t]) = bound .pattern (advanceAll p ts) t := by
  induction ts generalizing p with
  | nil => rfl
  | cons u ts ih =>
    rw [advanceAll, ← ih]
    cases ts <;> rfl

mutual

/-- What is listed of a pattern are the names that it binds and that are no words of the
language. -/
theorem bound_of_binds {slot : Slot} {p : Position} {t : Tree} {bs : List Binder} :
    Binds slot p t bs → bound .pattern p t = Binder.listed bs
  | .name _ _ => rfl
  | .word _ => rfl
  | .brackets hk h => by
    have ih := boundAll_of_bindAll h
    rcases hk with rfl | rfl
    · exact ih
    · exact ih
  | .braces hk h => by
    have ih := boundAll_of_bindAll h
    rcases hk with rfl | rfl
    · exact ih
    · exact ih
  | .element h => bound_of_binds h
  | .elementDefault h behind => (List.append_nil _).trans (bound_of_binds h)
  | .rest _ _ hmarks h => (boundAll_marks hmarks .pattern _ _).trans (bound_of_binds h)
  | .shorthand _ _ => rfl
  | .shorthandDefault _ _ _ => rfl
  | .pair key h => (boundLast_concat _ key _).trans (bound_of_binds h)

theorem boundAll_of_bindAll {slot : Slot} {p : Position} {ts : List Tree} {bs : List Binder} :
    BindAll slot p ts bs → boundAll .pattern p ts = Binder.listed bs
  | .nil _ _ => rfl
  | .mark ht hs => by
    rw [boundAll, bound_of_isMark ht, boundAll_of_bindAll hs]
    rfl
  | .part h hs => by
    rw [boundAll, bound_of_binds h, boundAll_of_bindAll hs, Binder.listed_append]

end

/-- The names that a tree binds if it is a declarator. -/
def declaratorNames (p : Position) : Tree → List Identifier
  | node .declarator (u :: _) => bound .pattern p u
  | _ => []

theorem declaredNames_cons (p : Position) (t : Tree) (ts : List Tree) :
    declaredNames p (t :: ts) = declaratorNames p t ++ declaredNames (t.advance p) ts := rfl

theorem declaredNames_of_declares {p : Position} {ts : List Tree} {bs : List Binder}
    (h : Declares p ts bs) : declaredNames p ts = Binder.listed bs := by
  induction h with
  | nil p => rfl
  | leaf _ ih => exact ih
  | declarator h _ ih =>
    rw [declaredNames_cons, declaratorNames, bound_of_binds h, ih, Binder.listed_append]

end Tree

/-! ## Where bound names stand -/

/-- Names stand in some characters that begin at a place: each is a piece of them, and one ends
before the next one begins. -/
structure Identifier.AreIn (p : Position) (chars : Text) (is : List Identifier) : Prop where
  pieces : ∀ i ∈ is, ∃ before after, chars = before ++ i.name ++ after ∧
    i.span = .cover (p.advance before) i.name
  ordered : is.Pairwise fun i j => i.span.Precedes j.span

namespace Identifier.AreIn

variable {p : Position} {chars chars' : Text} {is js : List Identifier}

theorem nil (p : Position) (chars : Text) : AreIn p chars [] :=
  ⟨by simp, .nil⟩

theorem leaf (p : Position) (chars : Text) : AreIn p chars [⟨chars, .cover p chars⟩] := by
  refine ⟨?_, List.pairwise_singleton _ _⟩
  intro i hi
  obtain rfl := List.mem_singleton.1 hi
  exact ⟨[], [], by simp, rfl⟩

theorem widen (before after : Text) (h : AreIn (p.advance before) chars is) :
    AreIn p (before ++ chars ++ after) is := by
  refine ⟨?_, h.ordered⟩
  intro i hi
  obtain ⟨u, v, hchars, hspan⟩ := h.pieces i hi
  refine ⟨before ++ u, v ++ after, ?_, ?_⟩
  · rw [hchars]
    simp
  · rw [hspan, Position.advance_append]

theorem append (h : AreIn p chars is) (h' : AreIn (p.advance chars) chars' js) :
    AreIn p (chars ++ chars') (is ++ js) := by
  have hleft : AreIn p ([] ++ chars ++ chars') is := widen [] chars' h
  have hright : AreIn p (chars ++ chars' ++ []) js := widen chars [] h'
  rw [List.nil_append] at hleft
  rw [List.append_nil] at hright
  refine ⟨?_, List.pairwise_append.2 ⟨h.ordered, h'.ordered, ?_⟩⟩
  · intro i hi
    rcases List.mem_append.1 hi with hi | hi
    · exact hleft.pieces i hi
    · exact hright.pieces i hi
  · intro i hi j hj
    obtain ⟨u, v, hchars, hspan⟩ := h.pieces i hi
    obtain ⟨u', v', -, hspan'⟩ := h'.pieces j hj
    -- The first name ends in the characters in front of those that the second one begins in.
    have hstop : i.span.stop.le (p.advance chars) = true := by
      rw [hspan, Span.cover, hchars, Position.advance_append, Position.advance_append]
      exact Position.le_advance _ v
    have hstart : (p.advance chars).le j.span.start = true := by
      rw [hspan']
      exact Position.le_advance _ u'
    exact Position.le_trans hstop hstart

end Identifier.AreIn

namespace Tree

open Identifier (AreIn)

mutual

theorem areIn_of_binds {slot : Slot} {p : Position} {t : Tree} {bs : List Binder} :
    Binds slot p t bs → AreIn p t.text (bs.map (·.identifier))
  | .name p chars => by
    rw [text_leaf]
    exact .leaf p chars
  | .word p => by
    rw [text_leaf]
    exact .leaf p _
  | .brackets _ h => by
    rw [text_node]
    exact areIn_of_bindAll h
  | .braces _ h => by
    rw [text_node]
    exact areIn_of_bindAll h
  | .element h => areIn_of_binds h
  | .elementDefault h behind => by
    rw [text_node, textOf_cons]
    exact (areIn_of_binds h).widen [] (textOf behind)
  | .rest marks _ _ h => by
    have ih := areIn_of_binds h
    rw [advanceAll_eq] at ih
    simpa using ih.widen (textOf marks) []
  | .shorthand p chars => by
    rw [text_leaf]
    exact .leaf p chars
  | .shorthandDefault p chars behind => by
    rw [text_node, textOf_cons, text_leaf]
    exact (AreIn.leaf p chars).widen [] (textOf behind)
  | .pair key h => by
    have ih := areIn_of_binds h
    rw [advanceAll_eq] at ih
    simpa using ih.widen (textOf key) []

theorem areIn_of_bindAll {slot : Slot} {p : Position} {ts : List Tree} {bs : List Binder} :
    BindAll slot p ts bs → AreIn p (textOf ts) (bs.map (·.identifier))
  | .nil _ p => .nil p _
  | .mark (t := t) _ hs => by
    have ih := areIn_of_bindAll hs
    rw [advance_eq] at ih
    rw [textOf_cons]
    exact (AreIn.nil _ t.text).append ih
  | .part h hs => by
    have ih := areIn_of_bindAll hs
    rw [advance_eq] at ih
    rw [textOf_cons, List.map_append]
    exact (areIn_of_binds h).append ih

end

/-- The names that a declaration binds stand in its text. -/
theorem areIn_of_declares {p : Position} {ts : List Tree} {bs : List Binder}
    (h : Declares p ts bs) : AreIn p (textOf ts) (bs.map (·.identifier)) := by
  induction h with
  | nil p => exact .nil p _
  | @leaf _ _ chars _ _ _ ih =>
    rw [textOf_cons, text_leaf]
    exact (AreIn.nil _ chars).append ih
  | @declarator p t behind _ _ _ h _ ih =>
    have hfirst := (areIn_of_binds h).widen [] (textOf behind)
    rw [advance_eq, text_node, textOf_cons] at ih
    rw [textOf_cons, text_node, textOf_cons, List.map_append]
    exact hfirst.append ih

end Tree

/-! ## The declarations of a program -/

/-- The node is a declaration of variables or constants. -/
def Site.isDeclaration (s : Site) : Bool :=
  s.kind = .varDeclaration || s.kind = .lexicalDeclaration

/-- The statement is a declaration of variables or constants. -/
def Statement.isDeclaration : Statement → Bool
  | simple (.declaration _ _) _ => true
  | _ => false

namespace Site

variable {s : Site} {st : Statement}

theorem isDeclaration_iff :
    s.isDeclaration = true ↔ s.kind = .varDeclaration ∨ s.kind = .lexicalDeclaration := by
  rw [isDeclaration, Bool.or_eq_true, decide_eq_true_iff, decide_eq_true_iff]

/-- As a statement, a declaration lists the names of its declarators. -/
theorem simpleKind?_of_isDeclaration (hs : s.isDeclaration = true) :
    ∃ word, s.simpleKind? = some (.declaration word (Tree.declaredNames s.start s.parts)) := by
  rcases isDeclaration_iff.1 hs with hk | hk
  · refine ⟨.var, ?_⟩
    rw [simpleKind?, hk]
    rfl
  · refine ⟨Tree.declarationKind s.parts, ?_⟩
    rw [simpleKind?, hk]
    rfl

theorem isDeclaration_of_simpleKind? {word : DeclarationKind} {names : List Identifier}
    (h : s.simpleKind? = some (.declaration word names)) : s.isDeclaration = true := by
  rw [isDeclaration_iff]
  rw [simpleKind?] at h
  split at h
  · cases h
  · cases h
  · unfold Tree.simpleKind? at h
    split at h
    · next hk => exact .inl hk
    · next hk => exact .inr hk
    all_goals cases h

/-- Declarations come from the nodes of declarations. -/
theorem Makes.isDeclaration_iff (h : s.Makes st) :
    s.isDeclaration = true ↔ st.isDeclaration = true := by
  cases st with
  | simple kind span =>
    constructor
    · intro hs
      obtain ⟨word, hword⟩ := simpleKind?_of_isDeclaration hs
      rw [h.1] at hword
      cases hword
      rfl
    · intro hst
      cases kind with
      | declaration word names => exact isDeclaration_of_simpleKind? h.1
      | _ => cases hst
  | compound kind span body =>
    constructor
    · intro hs
      obtain ⟨hkind, -⟩ := h
      rcases Site.isDeclaration_iff.1 hs with hk | hk
      · rw [compoundKind?, hk] at hkind
        cases hkind
      · rw [compoundKind?, hk] at hkind
        cases hkind
    · rintro ⟨⟩

/-- The statement that a declaration makes. -/
theorem Makes.eq_declaration (h : s.Makes st) (hs : s.isDeclaration = true) :
    ∃ word, st = .simple (.declaration word (Tree.declaredNames s.start s.parts)) s.span := by
  have hst := h.isDeclaration_iff.1 hs
  cases st with
  | simple kind span =>
    obtain ⟨hkind, rfl⟩ := h
    obtain ⟨word, hword⟩ := simpleKind?_of_isDeclaration hs
    rw [hkind] at hword
    cases hword
    exact ⟨word, rfl⟩
  | compound kind span body => cases hst

end Site

/-- A statement lists some bound names: those that are no words of the language, so all of them if
and only if there is no such word among them. The bound names stand in the text of the node that the
statement comes from, one after the other. -/
structure Spot.Lists (s : Spot) (st : Statement) (bs : List Binder) : Prop where
  eq_declaration : ∃ word, st = .simple (.declaration word (Binder.listed bs)) s.site.span
  listed_eq_iff : Binder.listed bs = bs.map (·.identifier) ↔ ∀ b ∈ bs, b.kind ≠ .keyword
  areIn : Identifier.AreIn s.site.start s.site.text (bs.map (·.identifier))

theorem Spot.lists_of_declares {s : Spot} {st : Statement} {bs : List Binder}
    (h : s.site.Makes st) (hs : s.site.isDeclaration = true)
    (hbs : Tree.Declares s.site.start s.site.parts bs) : s.Lists st bs where
  eq_declaration := by
    obtain ⟨word, hword⟩ := h.eq_declaration hs
    rw [Tree.declaredNames_of_declares hbs] at hword
    exact ⟨word, hword⟩
  listed_eq_iff := Binder.listed_eq_iff bs
  areIn := by
    have hkind : s.site.kind ≠ .fieldDefinition := by
      intro hkind
      rw [Site.isDeclaration_iff, hkind] at hs
      rcases hs with hs | hs <;> cases hs
    rw [Site.text_of_ne hkind]
    exact Tree.areIn_of_declares hbs

/-- The declarations among the statements of a program come from the declarations among its nodes,
one from each and in the same order, and list the names that these bind, except for the word
`undefined` where the grammar takes it for a word of the language. -/
theorem Model.listed_declarations (ts : List Tree) (filename : Text) :
    List.Forall₂ (fun s st => ∀ bs, Tree.Declares s.site.start s.site.parts bs → s.Lists st bs)
      (((Tree.node .program ts).allSpots.filter (·.isStatement)).filter (·.site.isDeclaration))
      ((Statement.preorderAll (ofTree (.node .program ts) filename).program).filter
        (·.isDeclaration)) := by
  have hmakes := List.rel_filter (p := (·.site.isDeclaration)) (q := (·.isDeclaration))
    (fun s st (h : Spot.Makes s st) => h.makes.isDeclaration_iff)
    (Model.forall₂_statements ts filename)
  have hdeclare : ∀ s ∈ ((Tree.node .program ts).allSpots.filter (·.isStatement)).filter
      (·.site.isDeclaration), s.site.isDeclaration = true :=
    fun s hs => (List.mem_filter.1 hs).2
  refine ((List.forall₂_and_left _ _).2 ⟨hdeclare, hmakes⟩).imp ?_
  rintro s st ⟨hs, h⟩ bs hbs
  exact Spot.lists_of_declares h.makes hs hbs

/-- A declaration with nested patterns, a computed key, default values and a comment. -/
def nestedText : Text := "const\x7ba,[b]:[c=d,,...e],f=1\x7d=g,/**/h;".toList

/-- The parts of this declaration. -/
def nestedParts : List Tree :=
  [.leaf .keyword "const".toList,
    .node .declarator [
      .node .objectPattern [.leaf .punctuator ['\x7b'], .leaf .shorthand ['a'],
        .leaf .punctuator [','],
        .node .pair [
          .node .computedName [.leaf .punctuator ['['], .leaf .name ['b'], .leaf .punctuator [']']],
          .leaf .punctuator [':'],
          .node .array [.leaf .punctuator ['['],
            .node .assignment [.leaf .name ['c'], .leaf .punctuator ['='], .leaf .name ['d']],
            .leaf .punctuator [','], .leaf .punctuator [','],
            .node .spread [.leaf .punctuator "...".toList, .leaf .name ['e']],
            .leaf .punctuator [']']]],
        .leaf .punctuator [','],
        .node .shorthandDefault [.leaf .shorthand ['f'], .leaf .punctuator ['='],
          .leaf .number ['1']],
        .leaf .punctuator ['\x7d']],
      .leaf .punctuator ['='], .leaf .name ['g']],
    .leaf .punctuator [','], .leaf .comment "/**/".toList,
    .node .declarator [.leaf .name ['h']], .leaf .punctuator [';']]

/-- The names that it binds. -/
def nestedBinders : List Binder :=
  [⟨.shorthand, ['a'], ⟨⟨1, 6⟩, ⟨1, 7⟩⟩⟩, ⟨.name, ['c'], ⟨⟨1, 13⟩, ⟨1, 14⟩⟩⟩,
    ⟨.name, ['e'], ⟨⟨1, 21⟩, ⟨1, 22⟩⟩⟩, ⟨.shorthand, ['f'], ⟨⟨1, 24⟩, ⟨1, 25⟩⟩⟩,
    ⟨.name, ['h'], ⟨⟨1, 35⟩, ⟨1, 36⟩⟩⟩]

theorem declares_nestedParts : Tree.Declares .origin nestedParts nestedBinders := by
  have h : ∃ bs, Tree.Declares .origin nestedParts bs ∧ bs = nestedBinders := by
    refine ⟨_, .leaf <| .declarator (.braces (.inr rfl) <| .mark rfl <| .part (.shorthand _ _) <|
      .mark rfl <| .part (.pair [_, _] <| .element <| .brackets (.inl rfl) <| .mark rfl <|
        .part (.elementDefault (.name _ _) _) <| .mark rfl <| .mark rfl <|
        .part (.rest [_] (by decide) (by decide) (.name _ _)) <| .mark rfl <| .nil _ _) <|
      .mark rfl <| .part (.shorthandDefault _ _ _) <| .mark rfl <| .nil _ _) <|
      .leaf <| .leaf <| .declarator (.name _ _) <| .leaf <| .nil _, ?_⟩
    rfl
  obtain ⟨bs, hbs, rfl⟩ := h
  exact hbs

theorem ofText_nestedText : Model.ofText nestedText [] =
    .ok (Model.ofTree (.node .program [.node .lexicalDeclaration nestedParts]) []) := by
  have htree : Tree.ofText nestedText =
      .node .program [.node .lexicalDeclaration nestedParts] := rfl
  rw [Model.ofText, htree]
  rfl

/-- The five names are listed, and neither the key nor a default value nor an initializer is. -/
theorem listed_declarations_nested :
    Model.ofText nestedText [] =
      .ok (Model.ofTree (.node .program [.node .lexicalDeclaration nestedParts]) []) ∧
    Tree.Declares .origin nestedParts nestedBinders ∧
    (Model.ofTree (.node .program [.node .lexicalDeclaration nestedParts]) []).program =
      [.simple (.declaration .const (nestedBinders.map (·.identifier)))
        (.cover .origin nestedText)] ∧
    List.Forall₂ (fun s st => ∀ bs, Tree.Declares s.site.start s.site.parts bs → s.Lists st bs)
      (((Tree.node .program [.node .lexicalDeclaration nestedParts]).allSpots.filter
        (·.isStatement)).filter (·.site.isDeclaration))
      ((Statement.preorderAll (Model.ofTree (.node .program [.node .lexicalDeclaration nestedParts])
        []).program).filter (·.isDeclaration)) :=
  ⟨ofText_nestedText, declares_nestedParts, rfl, Model.listed_declarations _ []⟩

/-- A declaration of a variable with the name `undefined` in brackets. -/
def undefinedText : Text := "var [undefined] = x;".toList

/-- The parts of this declaration. -/
def undefinedParts : List Tree :=
  [.leaf .keyword "var".toList, .leaf .blank [' '],
    .node .declarator [
      .node .array [.leaf .punctuator ['['], .leaf .keyword "undefined".toList,
        .leaf .punctuator [']']],
      .leaf .blank [' '], .leaf .punctuator ['='], .leaf .blank [' '], .leaf .name ['x']],
    .leaf .punctuator [';']]

/-- The name that it binds. -/
def undefinedBinder : Binder := ⟨.keyword, "undefined".toList, ⟨⟨1, 5⟩, ⟨1, 14⟩⟩⟩

theorem declares_undefinedParts : Tree.Declares .origin undefinedParts [undefinedBinder] := by
  have h : ∃ bs, Tree.Declares .origin undefinedParts bs ∧ bs = [undefinedBinder] := by
    refine ⟨_, .leaf <| .leaf <| .declarator (.brackets (.inl rfl) <| .mark rfl <|
      .part (.element (.word _)) <| .mark rfl <| .nil _ _) <| .leaf <| .nil _, ?_⟩
    rfl
  obtain ⟨bs, hbs, rfl⟩ := h
  exact hbs

/-- The name is bound, and the declaration lists no name. -/
theorem declarations_undefinedText :
    (∃ m, Model.ofText undefinedText [] = .ok m ∧
      m.program = [.simple (.declaration .var []) (.cover .origin undefinedText)]) ∧
    Tree.ofText undefinedText = .node .program [.node .varDeclaration undefinedParts] ∧
    Tree.Declares .origin undefinedParts [undefinedBinder] := by
  have htree : Tree.ofText undefinedText =
      .node .program [.node .varDeclaration undefinedParts] := rfl
  refine ⟨⟨Model.ofTree (.node .program [.node .varDeclaration undefinedParts]) [], ?_, rfl⟩,
    htree, declares_undefinedParts⟩
  rw [Model.ofText, htree]
  rfl

end ScriptStyle
