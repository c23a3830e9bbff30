import ScriptStyle.Syntax.Tree
import ScriptStyle.Syntax.Lexeme
import ScriptStyle.Syntax.Terminator

/-!
# Grammar rules

A rule moves a cursor: it turns characters that are still ahead into trees, or fails. Every rule
carries the proofs that it neither drops nor adds a character and that it never moves back, and every
way to combine rules keeps these proofs, so the tree of a whole text spells the text again however
the grammar is written.

What a combination does where it succeeds is said beside it, from `run_seq` to `run_ended`, in terms
of the rules that it is made of.

Choice is ordered and a failed alternative leaves no trace, so rules may look arbitrarily far
ahead. What may stand between two lexemes depends on the lexeme before; `Gap` says what.
-/

namespace ScriptStyle

/-- A place in a text that is being read. -/
structure Cursor where
  /-- The parts of the construct at hand that have been read, the latest first. -/
  done : List Tree
  /-- The characters ahead. -/
  rest : List Char

namespace Cursor

/-- The characters of the construct at hand and those ahead. -/
def text (c : Cursor) : List Char := Tree.textOf c.done.reverse ++ c.rest

/-- The part read last. -/
def top? (c : Cursor) : Option Tree := c.done.head?

/-- Makes a leaf of the next `n` characters; without characters there is no leaf. -/
def shift (kind : LeafKind) (n : Nat) (c : Cursor) : Cursor :=
  if n = 0 then c else ⟨.leaf kind (c.rest.take n) :: c.done, c.rest.drop n⟩

/-- The word ahead, empty when there is none. -/
def word (c : Cursor) : List Char := c.rest.take (Lexeme.word c.rest)

@[simp] theorem text_shift (kind : LeafKind) (n : Nat) (c : Cursor) :
    (c.shift kind n).text = c.text := by
  unfold shift
  split
  · rfl
  · simp [text]

theorem rest_shift (kind : LeafKind) (n : Nat) (c : Cursor) :
    (c.shift kind n).rest = c.rest.drop n := by
  unfold shift
  split
  · next h => rw [h, List.drop_zero]
  · rfl

theorem rest_shift_suffix (kind : LeafKind) (n : Nat) (c : Cursor) :
    (c.shift kind n).rest <:+ c.rest := by
  rw [rest_shift]
  exact List.drop_suffix n c.rest

end Cursor

/-- What may stand between the lexeme read last and the next one. -/
structure Gap where
  /-- A statement may end here without a semicolon. -/
  mayEnd : Bool
  /-- An operator could follow here. -/
  operand : Bool

namespace Gap

/-- Only blanks and comments may stand here. -/
def plain : Gap := ⟨false, false⟩

/-- After an operand inside brackets. -/
def inner : Gap := ⟨false, true⟩

/-- After an operand; `tail` tells whether the operand may be the last of its statement. -/
def after (tail : Bool) : Gap := ⟨tail, true⟩

/-- After something that no operator continues but that may be the last of its statement. -/
def closing : Gap := ⟨true, false⟩

/-- The gap inside a list. An operator could follow an element, but not a bracket, a comma, a
method, or a name that stands for a whole property. -/
def inList (c : Cursor) : Gap :=
  match c.done.find? (!·.isTrivia) with
  | some (.leaf kind _) => if kind = .punctuator || kind = .shorthand then plain else inner
  | some (.node .methodDefinition _) => plain
  | _ => inner

/-- The gap inside a list of parameters. An operator could follow a default value. -/
def inParameters (c : Cursor) : Gap :=
  match c.done.find? (!·.isTrivia) with
  | some (.node .assignment _) => inner
  | _ => plain

/-- Comment marks of markup are read as operators after an operand and where a statement may
end. -/
def allowsMarkupComments (g : Gap) : Bool := !g.mayEnd && !g.operand

/-- The length of a comment by a mark of markup behind some blanks. Only plain spaces and line ends
may stand right before the mark. -/
def markupComment (g : Gap) (blanks rest : List Char) : Nat :=
  if g.allowsMarkupComments && blanks.all (fun c => Characters.isSpace c || Characters.isLineEnd c)
  then Lexeme.markupComment rest else 0

/-- Passes blanks and at most one comment. Answers whether the gap ends here, and with an automatic
semicolon (`some true`) or at a lexeme (`some false`). -/
def step (g : Gap) (c : Cursor) : Cursor × Option Bool :=
  if g.mayEnd && Terminator.isAutomatic g.operand c.rest then (c, some true)
  else
    let blanks := Lexeme.blanks c.rest
    let b := c.shift .blank blanks
    let n := max (Lexeme.comment b.rest) (g.markupComment (c.rest.take blanks) b.rest)
    if n = 0 then (b, some false) else (b.shift .comment n, none)

/-- Passes blanks and comments, at most so many. Answers whether an automatic semicolon follows. -/
def passAtMost (g : Gap) : Nat → Cursor → Cursor × Bool
  | 0, c => (c, false)
  | fuel + 1, c =>
    match g.step c with
    | (d, some e) => (d, e)
    | (d, none) => g.passAtMost fuel d

/-- Passes blanks and comments up to the next lexeme, or up to an automatic semicolon. Answers
whether it was a semicolon. -/
def pass (g : Gap) (c : Cursor) : Cursor × Bool :=
  match g.step c with
  | (d, some e) => (d, e)
  | (d, none) => g.passAtMost (d.rest.length + 1) d

theorem text_step (g : Gap) (c : Cursor) : (g.step c).1.text = c.text := by
  unfold step
  split
  · rfl
  · simp only
    generalize (max _ _ : Nat) = n
    split <;> simp

theorem text_passAtMost (g : Gap) (fuel : Nat) (c : Cursor) :
    (g.passAtMost fuel c).1.text = c.text := by
  induction fuel generalizing c with
  | zero => rfl
  | succ fuel ih =>
    have hs := g.text_step c
    rw [passAtMost]
    split
    · next d e h => simpa [h] using hs
    · next d h => rw [ih]; simpa [h] using hs

theorem text_pass (g : Gap) (c : Cursor) : (g.pass c).1.text = c.text := by
  have hs := g.text_step c
  unfold pass
  split
  · next d e h => simpa [h] using hs
  · next d h => rw [text_passAtMost]; simpa [h] using hs

theorem rest_step_suffix (g : Gap) (c : Cursor) : (g.step c).1.rest <:+ c.rest := by
  unfold step
  split
  · exact List.suffix_rfl
  · simp only
    generalize (max _ _ : Nat) = n
    split
    · exact Cursor.rest_shift_suffix _ _ _
    · exact (Cursor.rest_shift_suffix _ _ _).trans (Cursor.rest_shift_suffix _ _ _)

theorem rest_passAtMost_suffix (g : Gap) (fuel : Nat) (c : Cursor) :
    (g.passAtMost fuel c).1.rest <:+ c.rest := by
  induction fuel generalizing c with
  | zero => exact List.suffix_rfl
  | succ fuel ih =>
    have hs := g.rest_step_suffix c
    rw [passAtMost]
    split
    · next d e h => simpa [h] using hs
    · next d h => exact (ih d).trans (by simpa [h] using hs)

theorem rest_pass_suffix (g : Gap) (c : Cursor) : (g.pass c).1.rest <:+ c.rest := by
  have hs := g.rest_step_suffix c
  unfold pass
  split
  · next d e h => simpa [h] using hs
  · next d h => exact (g.rest_passAtMost_suffix _ d).trans (by simpa [h] using hs)

end Gap

/-- A step of reading that keeps every character. -/
structure Rule where
  /-- Reads on, or fails. -/
  run : Cursor → Option Cursor
  /-- The least number of characters ahead wherever something was looked for in vain. -/
  reach : Cursor → Nat
  /-- Nothing is lost and nothing is made up. -/
  text_eq : ∀ {c d : Cursor}, run c = some d → d.text = c.text
  /-- Nothing that has been read is ahead again. -/
  rest_suffix : ∀ {c d : Cursor}, run c = some d → d.rest <:+ c.rest

namespace Rule

/-- Reads nothing. -/
def skip : Rule where
  run := some
  reach := (·.rest.length)
  text_eq h := by cases h; rfl
  rest_suffix h := by cases h; exact List.suffix_rfl

/-- Fails everywhere. -/
def fail : Rule where
  run _ := none
  reach := (·.rest.length)
  text_eq h := by cases h
  rest_suffix h := by cases h

instance : Inhabited Rule := ⟨fail⟩

/-- One rule and then another. -/
def seq (a b : Rule) : Rule where
  run c := match a.run c with
    | some d => b.run d
    | none => none
  reach c := match a.run c with
    | some d => min (a.reach c) (b.reach d)
    | none => a.reach c
  text_eq {c e} h := by
    split at h
    · next d hd => rw [b.text_eq h, a.text_eq hd]
    · cases h
  rest_suffix {c e} h := by
    split at h
    · next d hd => exact (b.rest_suffix h).trans (a.rest_suffix hd)
    · cases h

instance : AndThen Rule := ⟨fun a b => a.seq (b ())⟩

theorem run_seq {a b : Rule} {c e : Cursor} (h : (a >> b).run c = some e) :
    ∃ d, a.run c = some d ∧ b.run d = some e := by
  change (a.seq b).run c = some e at h
  dsimp only [seq] at h
  split at h
  · next d hd => exact ⟨d, hd, h⟩
  · cases h

/-- One rule, or another where the first fails. -/
def or (a b : Rule) : Rule where
  run c := match a.run c with
    | some d => some d
    | none => b.run c
  reach c := match a.run c with
    | some _ => a.reach c
    | none => min (a.reach c) (b.reach c)
  text_eq {c e} h := by
    split at h
    · next d hd => cases h; exact a.text_eq hd
    · exact b.text_eq h
  rest_suffix {c e} h := by
    split at h
    · next d hd => cases h; exact a.rest_suffix hd
    · exact b.rest_suffix h

instance : OrElse Rule := ⟨fun a b => a.or (b ())⟩

theorem run_or {a b : Rule} {c d : Cursor} (h : (a <|> b).run c = some d) :
    a.run c = some d ∨ a.run c = none ∧ b.run c = some d := by
  change (a.or b).run c = some d at h
  dsimp only [or] at h
  split at h
  · next e he => exact .inl (he.trans h)
  · next he => exact .inr ⟨he, h⟩

/-- The first of some rules that succeeds. -/
def oneOf : List Rule → Rule
  | [] => fail
  | r :: rs => r.or (oneOf rs)

/-- A rule that depends on where the cursor stands. -/
def pick (f : Cursor → Rule) : Rule where
  run c := (f c).run c
  reach c := (f c).reach c
  text_eq {c _} h := (f c).text_eq h
  rest_suffix {c _} h := (f c).rest_suffix h

/-- Succeeds without reading where `p` holds. -/
def check (p : Cursor → Bool) : Rule := pick fun c => if p c then skip else fail

theorem run_check {p : Cursor → Bool} {c d : Cursor} (h : (check p).run c = some d) :
    d = c ∧ p c = true := by
  change (if p c then skip else fail).run c = some d at h
  split at h
  · next hp => exact ⟨(Option.some.inj h).symm, hp⟩
  · cases h

/-- Succeeds without reading where `r` would succeed. -/
def followedBy (r : Rule) : Rule where
  run c := if (r.run c).isSome then some c else none
  reach := r.reach
  text_eq h := by
    split at h
    · cases h; rfl
    · cases h
  rest_suffix h := by
    split at h
    · cases h; exact List.suffix_rfl
    · cases h

theorem run_followedBy {r : Rule} {c d : Cursor} (h : (followedBy r).run c = some d) :
    d = c ∧ (r.run c).isSome = true := by
  dsimp only [followedBy] at h
  split at h
  · next hr => exact ⟨(Option.some.inj h).symm, hr⟩
  · cases h

/-- Succeeds without reading where `r` would fail. -/
def notFollowedBy (r : Rule) : Rule := check fun c => (r.run c).isNone

/-- A rule where it succeeds, and nothing otherwise. -/
def optional (r : Rule) : Rule := r.or skip

/-- Repeats a rule at most so many times, as long as it succeeds. -/
def repeatAtMost (r : Rule) : Nat → Cursor → Cursor
  | 0, c => c
  | fuel + 1, c =>
    match r.run c with
    | some d => repeatAtMost r fuel d
    | none => c

theorem text_repeatAtMost (r : Rule) (fuel : Nat) (c : Cursor) :
    (r.repeatAtMost fuel c).text = c.text := by
  induction fuel generalizing c with
  | zero => rfl
  | succ fuel ih =>
    rw [repeatAtMost]
    split
    · next d hd => rw [ih, r.text_eq hd]
    · rfl

theorem rest_repeatAtMost_suffix (r : Rule) (fuel : Nat) (c : Cursor) :
    (r.repeatAtMost fuel c).rest <:+ c.rest := by
  induction fuel generalizing c with
  | zero => exact List.suffix_rfl
  | succ fuel ih =>
    rw [repeatAtMost]
    split
    · next d hd => exact (ih d).trans (r.rest_suffix hd)
    · exact List.suffix_rfl

/-- How far the repetitions of a rule look. -/
def reachAtMost (r : Rule) : Nat → Cursor → Nat
  | 0, c => c.rest.length
  | fuel + 1, c =>
    match r.run c with
    | some d => min (r.reach c) (reachAtMost r fuel d)
    | none => r.reach c

/-- Repeats a rule as long as it succeeds. A rule that reads nothing is repeated only as often as
there are characters ahead. -/
def many (r : Rule) : Rule where
  run c := match r.run c with
    | some d => some (r.repeatAtMost d.rest.length d)
    | none => some c
  reach c := r.reachAtMost (c.rest.length + 1) c
  text_eq {c e} h := by
    split at h
    · next d hd => cases h; rw [text_repeatAtMost, r.text_eq hd]
    · cases h; rfl
  rest_suffix {c e} h := by
    split at h
    · next d hd =>
      cases h
      exact (r.rest_repeatAtMost_suffix _ d).trans (r.rest_suffix hd)
    · cases h; exact List.suffix_rfl

theorem run_many {r : Rule} {c d : Cursor} (h : r.many.run c = some d) :
    (∃ e, r.run c = some e ∧ d = r.repeatAtMost e.rest.length e) ∨ r.run c = none ∧ d = c := by
  dsimp only [many] at h
  split at h
  · next e he => exact .inl ⟨e, he, (Option.some.inj h).symm⟩
  · next he => exact .inr ⟨he, (Option.some.inj h).symm⟩

/-- Makes a leaf of the characters that `measure` counts, and fails where it counts none. -/
def lexeme (kind : LeafKind) (measure : List Char → Nat) : Rule where
  run c := match measure c.rest with
    | 0 => none
    | n + 1 => some (c.shift kind (n + 1))
  reach c := c.rest.length
  text_eq {c d} h := by
    split at h
    · cases h
    · cases h; simp
  rest_suffix {c d} h := by
    split at h
    · cases h
    · cases h; exact Cursor.rest_shift_suffix _ _ _

theorem run_lexeme {kind : LeafKind} {measure : List Char → Nat} {c d : Cursor}
    (h : (lexeme kind measure).run c = some d) :
    ∃ n, measure c.rest = n + 1 ∧ d = c.shift kind (n + 1) := by
  dsimp only [lexeme] at h
  split at h
  · cases h
  · next n hn => exact ⟨n, hn, (Option.some.inj h).symm⟩

/-- Makes a node of everything that a rule reads. -/
def node (kind : NodeKind) (r : Rule) : Rule where
  run c := match r.run ⟨[], c.rest⟩ with
    | some d => some ⟨.node kind d.done.reverse :: c.done, d.rest⟩
    | none => none
  reach c := r.reach ⟨[], c.rest⟩
  text_eq {c e} h := by
    split at h
    · next d hd =>
      cases h
      have := r.text_eq hd
      simp only [Cursor.text, List.reverse_nil, Tree.textOf_nil, List.nil_append] at this
      simp [Cursor.text, ← this]
    · cases h
  rest_suffix {c e} h := by
    split at h
    · next d hd =>
      have := r.rest_suffix hd
      cases h
      exact this
    · cases h

theorem run_node {kind : NodeKind} {r : Rule} {c d : Cursor}
    (h : (node kind r).run c = some d) :
    ∃ e, r.run ⟨[], c.rest⟩ = some e ∧ d = ⟨.node kind e.done.reverse :: c.done, e.rest⟩ := by
  dsimp only [node] at h
  split at h
  · next e he => exact ⟨e, he, (Option.some.inj h).symm⟩
  · cases h

/-- Makes a node of the part read last and everything that a rule reads after it. -/
def extend (kind : NodeKind) (r : Rule) : Rule where
  run c := match c.done with
    | [] => none
    | t :: ts => match r.run ⟨[t], c.rest⟩ with
      | some d => some ⟨.node kind d.done.reverse :: ts, d.rest⟩
      | none => none
  reach c := match c.done with
    | [] => c.rest.length
    | t :: _ => r.reach ⟨[t], c.rest⟩
  text_eq {c e} h := by
    split at h
    · cases h
    · next t ts ht =>
      split at h
      · next d hd =>
        cases h
        have := r.text_eq hd
        simp only [Cursor.text, List.reverse_cons, List.reverse_nil, List.nil_append,
          Tree.textOf_cons, Tree.textOf_nil, List.append_nil] at this
        simp [Cursor.text, ht, ← this]
      · cases h
  rest_suffix {c e} h := by
    split at h
    · cases h
    · next t ts ht =>
      split at h
      · next d hd =>
        have := r.rest_suffix hd
        cases h
        exact this
      · cases h

theorem run_extend {kind : NodeKind} {r : Rule} {c d : Cursor}
    (h : (extend kind r).run c = some d) :
    ∃ t ts e, c.done = t :: ts ∧ r.run ⟨[t], c.rest⟩ = some e ∧
      d = ⟨.node kind e.done.reverse :: ts, e.rest⟩ := by
  dsimp only [extend] at h
  split at h
  · cases h
  · next t ts ht =>
    split at h
    · next e he => exact ⟨t, ts, e, ht, he, (Option.some.inj h).symm⟩
    · cases h

/-- Opens the node read last again, reads on inside it, and closes it as another kind. -/
def resume (kind : NodeKind) (r : Rule) : Rule where
  run c := match c.done with
    | .node _ ts :: us => match r.run ⟨ts.reverse, c.rest⟩ with
      | some d => some ⟨.node kind d.done.reverse :: us, d.rest⟩
      | none => none
    | _ => none
  reach c := match c.done with
    | .node _ ts :: _ => r.reach ⟨ts.reverse, c.rest⟩
    | _ => c.rest.length
  text_eq {c e} h := by
    split at h
    · next k ts us ht =>
      split at h
      · next d hd =>
        cases h
        have := r.text_eq hd
        simp only [Cursor.text, List.reverse_reverse] at this
        simp [Cursor.text, ht, this]
      · cases h
    · cases h
  rest_suffix {c e} h := by
    split at h
    · next k ts us ht =>
      split at h
      · next d hd =>
        have := r.rest_suffix hd
        cases h
        exact this
      · cases h
    · cases h

theorem run_resume {kind : NodeKind} {r : Rule} {c d : Cursor}
    (h : (resume kind r).run c = some d) :
    ∃ k ts us e, c.done = .node k ts :: us ∧ r.run ⟨ts.reverse, c.rest⟩ = some e ∧
      d = ⟨.node kind e.done.reverse :: us, e.rest⟩ := by
  dsimp only [resume] at h
  split at h
  · next k ts us ht =>
    split at h
    · next e he => exact ⟨k, ts, us, e, ht, he, (Option.some.inj h).symm⟩
    · cases h
  · cases h

/-- Replaces the part read last by another one with the same characters. -/
def reshape (f : Tree → Option Tree) (keeps : ∀ {t u}, f t = some u → u.text = t.text) :
    Rule where
  run c := match c.done with
    | [] => none
    | t :: ts => match f t with
      | some u => some ⟨u :: ts, c.rest⟩
      | none => none
  reach c := c.rest.length
  text_eq {c e} h := by
    split at h
    · cases h
    · next t ts ht =>
      split at h
      · next u hu => cases h; simp [Cursor.text, ht, keeps hu]
      · cases h
  rest_suffix {c e} h := by
    split at h
    · cases h
    · split at h
      · cases h; exact List.suffix_rfl
      · cases h

theorem run_reshape {f : Tree → Option Tree} {keeps : ∀ {t u}, f t = some u → u.text = t.text}
    {c d : Cursor} (h : (reshape f keeps).run c = some d) :
    ∃ t ts u, c.done = t :: ts ∧ f t = some u ∧ d = ⟨u :: ts, c.rest⟩ := by
  dsimp only [reshape] at h
  split at h
  · cases h
  · next t ts ht =>
    split at h
    · next u hu => exact ⟨t, ts, u, ht, hu, (Option.some.inj h).symm⟩
    · cases h

/-- The part read last satisfies `p`. -/
def onTop (p : Tree → Bool) : Rule := check fun c => c.top?.any p

/-! ## Lexemes after a gap -/

/-- Passes a gap in which no statement ends. -/
def past (g : Gap) : Rule where
  run c := match g.pass c with
    | (d, false) => some d
    | (_, true) => none
  reach c := c.rest.length
  text_eq {c e} h := by
    split at h
    · next d hd => cases h; simpa [hd] using g.text_pass c
    · cases h
  rest_suffix {c e} h := by
    split at h
    · next d hd => cases h; simpa [hd] using g.rest_pass_suffix c
    · cases h

theorem run_past {g : Gap} {c d : Cursor} (h : (past g).run c = some d) :
    g.pass c = (d, false) := by
  dsimp only [past] at h
  split at h
  · next e he => rwa [← Option.some.inj h]
  · cases h

/-- Passes a gap up to the automatic semicolon that ends it. -/
def ended (operand : Bool) : Rule where
  run c := match (Gap.mk true operand).pass c with
    | (d, true) => some d
    | (_, false) => none
  reach c := c.rest.length
  text_eq {c e} h := by
    split at h
    · next d hd => cases h; simpa [hd] using (Gap.mk true operand).text_pass c
    · cases h
  rest_suffix {c e} h := by
    split at h
    · next d hd => cases h; simpa [hd] using (Gap.mk true operand).rest_pass_suffix c
    · cases h

theorem run_ended {operand : Bool} {c d : Cursor} (h : (ended operand).run c = some d) :
    (Gap.mk true operand).pass c = (d, true) := by
  dsimp only [ended] at h
  split at h
  · next e he => rwa [← Option.some.inj h]
  · cases h

/-- The number of characters of `spelling` if the text begins with it. -/
def spelled (spelling : List Char) (cs : List Char) : Nat :=
  if spelling.isPrefixOf cs then spelling.length else 0

/-- An operator, bracket or separator right ahead. -/
def mark (spelling : List Char) : Rule := lexeme .punctuator (spelled spelling)

/-- A keyword right ahead. -/
def keyword (spelling : List Char) : Rule :=
  lexeme .keyword fun cs => if cs.take (Lexeme.word cs) = spelling then spelling.length else 0

/-- The operator ahead, empty when there is none. -/
def operatorAhead (c : Cursor) : List Char := c.rest.take (Lexeme.operator c.rest)

/-- Exactly this operator right ahead, not the beginning of a longer one. -/
def operator (spelling : List Char) : Rule :=
  lexeme .punctuator fun cs =>
    if cs.take (Lexeme.operator cs) = spelling then spelling.length else 0

/-- Succeeds without reading where the next lexeme after a gap satisfies `p`. -/
def ahead (g : Gap) (p : Cursor → Bool) : Rule :=
  check fun c => match g.pass c with
    | (d, false) => p d
    | (_, true) => false

/-- An operator, bracket or separator after a gap. -/
def symbol (g : Gap) (spelling : List Char) : Rule := past g >> mark spelling

/-- A keyword after a gap. -/
def wordAfter (g : Gap) (spelling : List Char) : Rule := past g >> keyword spelling

/-- Any word right ahead, as a leaf of the given kind. -/
def anyWord (kind : LeafKind) : Rule := lexeme kind Lexeme.word

/-- A semicolon, written or automatic. -/
def semicolon (operand : Bool) : Rule := ended operand <|> symbol ⟨true, operand⟩ [';']

/-- Where a statement may end, no comment mark of markup is ahead: it would be read as an
operator. -/
def noMarkupComment (operand : Bool) : Rule :=
  notFollowedBy (past ⟨true, operand⟩ >> lexeme .comment Lexeme.markupComment)

/-- An automatic semicolon where there is one. -/
def mayEnd (operand : Bool) : Rule :=
  ended operand <|> if operand then skip else noMarkupComment operand

/-- A separator or bracket after a gap that depends on what stands before it. -/
def symbolBehind (gap : Cursor → Gap) (spelling : List Char) : Rule :=
  pick fun c => symbol (gap c) spelling

/-- One or more of `r` with commas between, each behind a gap. -/
def commaSeparated (gap : Cursor → Gap) (r : Rule) : Rule :=
  r >> many (symbolBehind gap [','] >> past .plain >> r)

/-- Elements with commas between, each of which may be absent. -/
def withHoles (r : Rule) : Rule :=
  optional (past .plain >> r) >> many (symbolBehind .inList [','] >> optional (past .plain >> r))

end Rule

end ScriptStyle
