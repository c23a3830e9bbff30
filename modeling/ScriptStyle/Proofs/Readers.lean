import ScriptStyle.Pattern.Scan

/-!
# Reading in front of a closing parenthesis

A part of a pattern is read from the front of a text. If a closing parenthesis and more text follow,
the same part is read and the parenthesis is left where it stands, because no part goes on behind a
parenthesis that does not belong to it. There are two exceptions. A comment at the end of the text
swallows the parenthesis. And some parts cannot be read at the very end of a text but can be read in
front of a parenthesis; what is left then is the parenthesis, or a sign that only what follows can
explain. Reading stalls there.

`Pattern.Continues` compares the two results of a reading and `Pattern.IsReader` says that a
function reads like this wherever it begins. Each way to put readings together has one lemma, so
that the functions that read the parts of a pattern need little more than their own equations.
-/

namespace ScriptStyle.Pattern

/-- In front of a closing parenthesis `a` is read, and `r` and the parenthesis are left. -/
def Leaves {α : Type} (longer : Text → Option (α × Text)) (a : α) (r : Text) : Prop :=
  ∀ more, longer more = some (a, r ++ ')' :: more)

/-- A comment swallows the parenthesis and the rest of its line. -/
structure Swallows {α : Type} (longer : Text → Option (α × Text)) (a : α) : Prop where
  line : ∀ {more}, '\n' ∉ more → longer more = some (a, [])
  past : ∀ {more b r}, longer more ≠ some (b, r ++ ')' :: more)

/-- How the result of reading a text goes with the results of reading it in front of a closing
parenthesis and more. `stalls` holds of the results and rests that are only there because of the
parenthesis. -/
structure Continues {α : Type} (stalls : α → Text → Prop) (plain : Option (α × Text))
    (longer : Text → Option (α × Text)) : Prop where
  /-- What is read is read in front of a parenthesis too, unless a comment swallows that. -/
  lift : ∀ {a r}, plain = some (a, r) → Leaves longer a r ∨ r = [] ∧ Swallows longer a
  /-- What is read without passing the parenthesis is read without it too. -/
  drop : ∀ {a r more}, longer more = some (a, r ++ ')' :: more) → ¬stalls a r →
    plain = some (a, r)

/-- The function reads from the front of a text and goes on in the same way in front of a closing
parenthesis. -/
structure IsReader {α : Type} (stalls : α → Text → Prop) (k : Text → Option (α × Text)) :
    Prop where
  /-- The rest is the end of the text. -/
  suffix : ∀ {t a r}, k t = some (a, r) → r <:+ t
  /-- The parenthesis is left alone. -/
  continues : ∀ t, Continues stalls (k t) fun more => k (t ++ ')' :: more)

/-- Reading does not stall. -/
def never {α : Type} (_ : α) (_ : Text) : Prop := False

variable {α β γ : Type} {s : α → Text → Prop} {s' : β → Text → Prop}

theorem suffix_of_suffix_append {r t more : Text} (h : r ++ ')' :: more <:+ t ++ ')' :: more) :
    r <:+ t := by
  obtain ⟨u, hu⟩ := h
  rw [← List.append_assoc] at hu
  exact ⟨u, List.append_cancel_right hu⟩

theorem not_append_suffix {r more : Text} : ¬r ++ ')' :: more <:+ more := by
  intro h
  have hlength := h.length_le
  rw [List.length_append, List.length_cons] at hlength
  omega

/-! ## Results -/

namespace Continues

variable {plain : Option (α × Text)} {longer : Text → Option (α × Text)}

/-- Where nothing is read, reading in front of the parenthesis can only stall. -/
theorem none (h : ∀ {a r more}, longer more = some (a, r ++ ')' :: more) → s a r) :
    Continues s none longer where
  lift := by
    intro a r hplain
    cases hplain
  drop hlonger hstall := absurd (h hlonger) hstall

/-- What is read past the parenthesis says nothing about the text without it. -/
theorem past (hsuffix : ∀ {more a r}, longer more = some (a, r) → r <:+ more) :
    Continues s .none longer :=
  .none fun h => absurd (hsuffix h) not_append_suffix

theorem of_never (h : Continues never plain longer) : Continues s plain longer :=
  ⟨h.lift, fun hlonger _ => h.drop hlonger id⟩

/-- What is read without passing the parenthesis is read whatever stands behind that. -/
theorem leaves (h : Continues s plain longer) {a : α} {r more : Text}
    (hlonger : longer more = some (a, r ++ ')' :: more)) (hstall : ¬s a r) :
    plain = some (a, r) ∧ Leaves longer a r := by
  have hplain := h.drop hlonger hstall
  rcases h.lift hplain with hleaves | ⟨rfl, hswallows⟩
  · exact ⟨hplain, hleaves⟩
  · exact absurd hlonger hswallows.past

theorem map (f : α → β) (h : Continues s plain longer) (hs : ∀ {a r}, s a r → s' (f a) r) :
    Continues s' (plain.map fun x => (f x.1, x.2)) fun more =>
      (longer more).map fun x => (f x.1, x.2) where
  lift := by
    intro b r hb
    obtain ⟨⟨a, r⟩, ha, hb⟩ := Option.map_eq_some_iff.1 hb
    cases hb
    rcases h.lift ha with hleaves | ⟨rfl, hswallows⟩
    · exact .inl fun more => congrArg (Option.map fun x => (f x.1, x.2)) (hleaves more)
    · refine .inr ⟨rfl, fun hmore => ?_, fun h => ?_⟩
      · exact congrArg (Option.map fun x => (f x.1, x.2)) (hswallows.line hmore)
      · obtain ⟨⟨a', r'⟩, ha', hr'⟩ := Option.map_eq_some_iff.1 h
        cases hr'
        exact hswallows.past ha'
  drop := by
    intro b r more hb hstall
    obtain ⟨⟨a, r'⟩, ha, hb⟩ := Option.map_eq_some_iff.1 hb
    cases hb
    rw [h.drop ha fun ha => hstall (hs ha)]
    rfl

end Continues

/-! ## Putting readings together -/

namespace IsReader

theorem of_never {k : Text → Option (α × Text)} (h : IsReader never k) : IsReader s k :=
  ⟨h.suffix, fun t => (h.continues t).of_never⟩

/-- One reading behind another. The second may differ in front of the parenthesis, and where the
first stalls the second stalls too or fails. -/
theorem continues_bind {f : Text → Option (α × Text)} (hf : IsReader s f)
    {g : α × Text → Option (β × Text)} {l : Text → α × Text → Option (β × Text)} (t : Text)
    (hg : ∀ a r, r <:+ t → (¬s a r → f t = some (a, r)) →
      Continues s' (g (a, r)) fun more => l more (a, r ++ ')' :: more))
    (hsuffix : ∀ {more a r b r'}, l more (a, r) = some (b, r') → r' <:+ r)
    (hnil : ∀ {a b r}, g (a, []) = some (b, r) → r = [] ∧ ∀ more, l more (a, []) = some (b, []))
    (hstalls : ∀ {a r b r'}, s a r → g (a, r) = some (b, r') → s' b r') :
    Continues s' (f t >>= g) fun more => f (t ++ ')' :: more) >>= l more where
  lift := by
    intro b r' h
    obtain ⟨⟨a, r⟩, ha, hb⟩ := Option.bind_eq_some_iff.1 h
    rcases (hf.continues t).lift ha with hleaves | ⟨rfl, hswallows⟩
    · have heq : (fun more => f (t ++ ')' :: more) >>= l more) = fun more =>
          l more (a, r ++ ')' :: more) := by
        funext more
        exact congrArg (· >>= l more) (hleaves more)
      rw [heq]
      exact (hg a r (hf.suffix ha) fun _ => ha).lift hb
    · obtain ⟨rfl, hnil⟩ := hnil hb
      refine .inr ⟨rfl, fun {more} hmore => ?_, fun h => ?_⟩
      · exact (congrArg (· >>= l more) (hswallows.line hmore)).trans (hnil more)
      · obtain ⟨⟨a', r⟩, ha', hb'⟩ := Option.bind_eq_some_iff.1 h
        obtain ⟨u, rfl⟩ := hsuffix hb'
        rw [← List.append_assoc] at ha'
        exact hswallows.past ha'
  drop := by
    intro b r' more h hstall
    obtain ⟨⟨a, r⟩, ha, hb⟩ := Option.bind_eq_some_iff.1 h
    obtain ⟨u, rfl⟩ := hsuffix hb
    rw [← List.append_assoc] at ha hb
    have hr : u ++ r' <:+ t := suffix_of_suffix_append (hf.suffix ha)
    have hdrop : ¬s a (u ++ r') → f t = some (a, u ++ r') := (hf.continues t).drop ha
    have hb := (hg a _ hr hdrop).drop hb hstall
    -- If the first reading had stalled, the whole would have.
    rw [hdrop fun hs => hstall (hstalls hs hb)]
    exact hb

theorem bind {f : Text → Option (α × Text)} (hf : IsReader s f) {g : α × Text → Option (β × Text)}
    (hg : ∀ a, IsReader s' fun r => g (a, r))
    (hstalls : ∀ {a r b r'}, s a r → g (a, r) = some (b, r') → s' b r') :
    IsReader s' fun t => f t >>= g where
  suffix := by
    intro t b r' h
    obtain ⟨⟨a, r⟩, ha, hb⟩ := Option.bind_eq_some_iff.1 h
    exact ((hg a).suffix hb).trans (hf.suffix ha)
  continues t := by
    refine hf.continues_bind t (fun a r _ _ => (hg a).continues r) (fun h => (hg _).suffix h) ?_
      hstalls
    intro a b r h
    obtain rfl := List.suffix_nil.1 ((hg a).suffix h)
    exact ⟨rfl, fun _ => h⟩

theorem pure (a : α) : IsReader s fun t => some (a, t) where
  suffix h := by
    cases h
    exact List.suffix_refl _
  continues t := {
    lift := by
      intro a r h
      cases h
      exact .inl fun more => rfl
    drop := by
      intro a r more h _
      obtain ⟨rfl, hr⟩ := Prod.mk.inj (Option.some.inj h)
      obtain rfl := List.append_cancel_right hr
      rfl }

theorem fail : IsReader s fun _ => none where
  suffix := by
    intro t a r h
    cases h
  continues _ := .none fun {_ _ _} h => by cases h

theorem bindOption (o : Option γ) {k : γ → Text → Option (α × Text)} (hk : ∀ d, IsReader s (k d)) :
    IsReader s fun t => o >>= fun d => k d t := by
  cases o with
  | none => exact fail
  | some d => exact hk d

theorem mapOption (o : Option γ) (f : γ → α) : IsReader s fun t => o.map fun d => (f d, t) := by
  cases o with
  | none => exact fail
  | some d => exact pure (f d)

theorem map {k : Text → Option (α × Text)} (f : α → β) (hk : IsReader s k)
    (hs : ∀ {a r}, s a r → s' (f a) r) :
    IsReader s' fun t => (k t).map fun x => (f x.1, x.2) where
  suffix := by
    intro t b r h
    obtain ⟨⟨a, r⟩, ha, hb⟩ := Option.map_eq_some_iff.1 h
    cases hb
    exact hk.suffix ha
  continues t := (hk.continues t).map f hs

theorem ite {p : Prop} [Decidable p] {k k' : Text → Option (α × Text)} (hk : IsReader s k)
    (hk' : IsReader s k') : IsReader s fun t => if p then k t else k' t := by
  split
  · exact hk
  · exact hk'

/-- A reading that begins with any character. -/
theorem uncons {k : Text → Option (α × Text)} (hnil : k [] = none)
    (hcons : ∀ c, IsReader s fun cs => k (c :: cs)) : IsReader s k where
  suffix := by
    intro t a r h
    cases t with
    | nil =>
      rw [hnil] at h
      cases h
    | cons c cs => exact ((hcons c).suffix h).trans (List.suffix_cons c cs)
  continues t := by
    cases t with
    | nil =>
      rw [hnil]
      exact .past (hcons ')').suffix
    | cons c cs => exact (hcons c).continues cs

/-- A reading that depends on whether the next character, which must not be the parenthesis, has a
property. -/
theorem ifHead {k l : Text → Option (α × Text)} (p : Char → Prop) (hp : ¬p ')')
    (hhead : ∀ c, p c → IsReader s fun cs => k (c :: cs)) (hl : IsReader s l)
    (hnil : k [] = l []) (hcons : ∀ c cs, ¬p c → k (c :: cs) = l (c :: cs)) : IsReader s k where
  suffix := by
    intro t a r h
    rcases t with _ | ⟨c, cs⟩
    · exact hl.suffix (hnil ▸ h)
    · by_cases hc : p c
      · exact ((hhead c hc).suffix h).trans (List.suffix_cons c cs)
      · exact hl.suffix (hcons c cs hc ▸ h)
  continues t := by
    rcases t with _ | ⟨c, cs⟩
    · simp only [List.nil_append, hnil, fun more => hcons ')' more hp]
      exact hl.continues []
    · by_cases hc : p c
      · exact (hhead c hc).continues cs
      · simp only [List.cons_append, fun t => hcons c t hc]
        exact hl.continues (c :: cs)

end IsReader

/-! ## Blanks and comments -/

theorem skipBlanks_suffix (comment : Bool) (t : Text) : skipBlanks comment t <:+ t := by
  induction t generalizing comment with
  | nil => exact List.suffix_refl _
  | cons c cs ih =>
    rw [skipBlanks]
    split
    · exact (ih _).trans (List.suffix_cons c cs)
    · split
      · exact (ih _).trans (List.suffix_cons c cs)
      · split
        · exact (ih _).trans (List.suffix_cons c cs)
        · exact List.suffix_refl _

/-- A comment ends at the end of its line. -/
theorem skipBlanks_comment (t : Text) (h : '\n' ∉ t) : skipBlanks true t = [] := by
  induction t with
  | nil => rfl
  | cons c cs ih =>
    rw [List.mem_cons, not_or] at h
    have hc : (c != '\n') = true := bne_iff_ne.2 (Ne.symm h.1)
    rw [skipBlanks, if_pos rfl, hc, ih h.2]

theorem isReader_skipBlanks (comment : Bool) :
    IsReader never fun t => some ((), skipBlanks comment t) where
  suffix h := by
    cases h
    exact skipBlanks_suffix _ _
  continues t := by
    induction t generalizing comment with
    | nil =>
      cases comment with
      | false => exact (IsReader.pure ()).continues []
      | true =>
        have hpast {more r : Text} {a : Unit} :
            some ((), skipBlanks true ([] ++ ')' :: more)) ≠ some (a, r ++ ')' :: more) := by
          intro h
          have hr : skipBlanks true more = r ++ ')' :: more := (Prod.mk.inj (Option.some.inj h)).2
          exact not_append_suffix (hr ▸ skipBlanks_suffix true more)
        refine ⟨fun h => ?_, fun h => absurd h hpast⟩
        cases h
        refine .inr ⟨rfl, fun hmore => ?_, hpast⟩
        rw [List.nil_append, skipBlanks_comment _ (by simpa using hmore)]
    | cons c cs ih =>
      simp only [List.cons_append, skipBlanks]
      split
      · exact ih _
      · split
        · exact ih _
        · split
          · exact ih _
          · exact (IsReader.pure ()).continues (c :: cs)

theorem isReader_skip (m : Mode) : IsReader never fun t => some ((), m.skip t) := by
  simp only [Mode.skip]
  cases m.verbose with
  | false => exact IsReader.pure ()
  | true => exact isReader_skipBlanks false

theorem skip_suffix (m : Mode) (t : Text) : m.skip t <:+ t := (isReader_skip m).suffix rfl

theorem skip_nil (m : Mode) : m.skip [] = [] := List.suffix_nil.1 (skip_suffix m [])

theorem skip_cons {c : Char} (hspace : Characters.isWhiteSpace c = false) (hc : c ≠ '#') (m : Mode)
    (cs : Text) : m.skip (c :: cs) = c :: cs := by
  rw [Mode.skip]
  split
  · rw [skipBlanks, if_neg Bool.false_ne_true, hspace, if_neg Bool.false_ne_true, if_neg hc]
  · rfl

theorem skip_append {m : Mode} {t : Text} (h : m.skip t ≠ []) (more : Text) :
    m.skip (t ++ ')' :: more) = m.skip t ++ ')' :: more := by
  rcases ((isReader_skip m).continues t).lift rfl with hleaves | ⟨hnil, -⟩
  · exact (Prod.mk.inj (Option.some.inj (hleaves more))).2
  · exact absurd hnil h

/-- The text behind what the mode ignores is read as it is in front of a parenthesis. -/
theorem continues_skip (m : Mode) {k : Text → Option (α × Text)}
    (hsuffix : ∀ {t a r}, k t = some (a, r) → r <:+ t) (t : Text)
    (hk : Continues s (k (m.skip t)) fun more => k (m.skip t ++ ')' :: more)) :
    Continues s (k (m.skip t)) fun more => k (m.skip (t ++ ')' :: more)) := by
  refine (isReader_skip m).continues_bind t (g := fun x => k x.2) (l := fun _ x => k x.2) ?_
    hsuffix ?_ fun h => h.elim
  · intro _ r _ hr
    cases hr fun h => h
    exact hk
  · intro _ a r h
    obtain rfl := List.suffix_nil.1 (hsuffix h)
    exact ⟨rfl, fun _ => h⟩

namespace IsReader

theorem afterSkip (m : Mode) {k : Text → Option (α × Text)} (hk : IsReader s k) :
    IsReader s fun t => k (m.skip t) :=
  (isReader_skip m).bind (g := fun x => k x.2) (fun _ => hk) fun h => h.elim

theorem afterSkipSome (m : Mode) {k : Text → Option (α × Text)} (hk : IsReader s k)
    (hnil : k [] = none) :
    IsReader s fun t => match m.skip t with
      | [] => none
      | r => k r := by
  have heq (t : Text) : (match m.skip t with
      | [] => none
      | r => k r) = k (m.skip t) := by
    cases m.skip t with
    | nil => exact hnil.symm
    | cons c cs => rfl
  simp only [heq]
  exact hk.afterSkip m

theorem afterDropWhile (p : Char → Bool) (hp : p ')' = false) {k : Text → Option (α × Text)}
    (hk : IsReader s k) : IsReader s fun t => k (t.dropWhile p) where
  suffix h := (hk.suffix h).trans (List.dropWhile_suffix p)
  continues t := by
    have hdrop (more : Text) :
        (t ++ ')' :: more).dropWhile p = t.dropWhile p ++ ')' :: more := by
      induction t with
      | nil => rw [List.nil_append, List.dropWhile_cons_of_neg (by simp [hp])]; rfl
      | cons c cs ih =>
        rw [List.cons_append, List.dropWhile_cons, List.dropWhile_cons, ih]
        split <;> rfl
    simp only [hdrop]
    exact hk.continues _

end IsReader

/-! ## Scans -/

section

/- A scan is in one of some states. Each character either ends it or leads to another state, and
what the mode ignores is passed over. -/

variable {ι : Type} {k : ι → Text → Option (α × Text)} (m : Mode)
  (hnil : ∀ i, k i [] = none)
  (hcons : ∀ i c, IsReader never (fun cs => k i (c :: cs)) ∨
    ∃ j, ∀ cs, k i (c :: cs) = k j (m.skip cs))

include hnil hcons

theorem scan_suffix {i : ι} {t r : Text} {a : α} (h : k i t = some (a, r)) : r <:+ t := by
  match t with
  | [] =>
    rw [hnil] at h
    cases h
  | c :: cs =>
    rcases hcons i c with hread | ⟨j, hj⟩
    · exact (hread.suffix h).trans (List.suffix_cons c cs)
    · rw [hj] at h
      exact ((scan_suffix h).trans (skip_suffix m cs)).trans (List.suffix_cons c cs)
termination_by t.length
decreasing_by exact length_skip_lt m c cs

theorem scan_continues (i : ι) (t : Text) :
    Continues never (k i t) fun more => k i (t ++ ')' :: more) := by
  have hsuffix {i : ι} {t r : Text} {a : α} : k i t = some (a, r) → r <:+ t :=
    scan_suffix m hnil hcons
  match t with
  | [] =>
    rw [hnil]
    refine .past fun {more a r} h => ?_
    rcases hcons i ')' with hread | ⟨j, hj⟩
    · exact hread.suffix h
    · rw [List.nil_append, hj] at h
      exact (hsuffix h).trans (skip_suffix m more)
  | c :: cs =>
    rcases hcons i c with hread | ⟨j, hj⟩
    · exact hread.continues cs
    · simp only [List.cons_append, hj]
      exact continues_skip m hsuffix cs (scan_continues j (m.skip cs))
termination_by t.length
decreasing_by exact length_skip_lt m c cs

/-- Scans read as parts do. -/
theorem IsReader.scan (i : ι) : IsReader never (k i) :=
  ⟨scan_suffix m hnil hcons, scan_continues m hnil hcons i⟩

end

end ScriptStyle.Pattern
