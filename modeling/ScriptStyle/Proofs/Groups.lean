import ScriptStyle.Proofs.Brackets
import ScriptStyle.Pattern.Read

/-!
# Reading a pattern in front of a closing parenthesis

A pattern is read in steps, and each of them is a reader. So the same steps are made if the text is
followed by a closing parenthesis and stands inside more groups: `Progress.under` puts the groups
around what has been read, and no step but the one that closes the outermost group can tell.

From this two things follow by induction on the length of the text. A text that is read whole is
read inside more groups up to the parenthesis behind it, or else it ends in a comment that swallows
the parenthesis (`Progress.exists_reads`). And a text that is read whole inside more groups has a
beginning that is read whole without them and ends before a closing parenthesis
(`Progress.exists_reads_of_under`).
-/

namespace ScriptStyle.Pattern.Progress

/-! ## Steps -/

/-- The name of a group and the group. -/
def namedGroup (g : Progress) (t : Text) : Option (Progress × Text) := do
  let (name, r) ← groupName [] t
  guard !g.names.contains name
  some ({ g.enter true g.mode with names := name :: g.names }, r)

/-- A group with a name, unless the sign of an assertion about what comes before follows. -/
def angleGroup (g : Progress) (t : Text) : Option (Progress × Text) :=
  match t with
  | '=' :: _ | '!' :: _ => none
  | _ => g.namedGroup t

/-- Letters that change the mode, and the group that they hold for unless they are closed. -/
def flagGroup (g : Progress) (t : Text) : Option (Progress × Text) :=
  (flags g.mode [] true false t).bind fun x =>
    if x.2.2.1 then do
      guard x.2.1
      some ({ g with mode := x.1, group := { g.group with items := none :: g.group.items } },
        x.2.2.2)
    else some (g.enter false x.1, x.2.2.2)

/-- What stands behind an opening parenthesis where the mode ignores nothing more. -/
def openGroup (g : Progress) (t : Text) : Option (Progress × Text) :=
  match t with
  | '?' :: 'P' :: '<' :: r => g.namedGroup r
  | '?' :: '<' :: r => g.angleGroup r
  | '?' :: r => g.flagGroup r
  | r => some (g.enter true g.mode, r)

/-- The same behind the question mark, if the letter that may come before a name does not follow. -/
def markedGroup (g : Progress) (t : Text) : Option (Progress × Text) :=
  match t with
  | '<' :: r => g.angleGroup r
  | r => g.flagGroup r

theorem parenthesis_eq (g : Progress) (t : Text) :
    g.parenthesis t = g.openGroup (g.mode.skip t) := rfl

/-- Nothing that counts stands behind an opening brace. -/
def AtBrace (g : Progress) (r : Text) : Prop := OpensBrace g.mode r

theorem isReader_namedGroup (g : Progress) : IsReader never g.namedGroup :=
  (isReader_groupName []).bind
    (fun name => .bindOption (guard (!g.names.contains name)) fun _ => .pure _) fun h => h.elim

theorem isReader_angleGroup (g : Progress) : IsReader never g.angleGroup := by
  refine .ifHead (fun c => c = '=' ∨ c = '!') (by decide) ?_ g.isReader_namedGroup rfl ?_
  · rintro c (rfl | rfl)
    · exact .fail
    · exact .fail
  · intro c cs hc
    obtain ⟨hequals, hbang⟩ := not_or.1 hc
    simp [angleGroup, hequals, hbang]

theorem isReader_flagGroup (g : Progress) : IsReader never g.flagGroup := by
  have hletters : g.flagGroup = fun t => letters (g.mode, [], true, false) t >>= fun x =>
      if x.1.2.2 then do
        guard x.1.2.1
        some ({ g with mode := x.1.1, group := { g.group with items := none :: g.group.items } },
          x.2)
      else some (g.enter false x.1.1, x.2) := by
    funext t
    rw [letters, Option.bind_eq_bind, Option.bind_map]
    rfl
  rw [hletters]
  refine (isReader_letters _).bind (fun x => ?_) fun h => h.elim
  refine .ite (p := x.2.2 = true) ?_ (.pure (g.enter false x.1))
  exact .bindOption (guard (x.2.1 = true)) fun _ =>
    .pure { g with mode := x.1, group := { g.group with items := none :: g.group.items } }

theorem isReader_markedGroup (g : Progress) : IsReader never g.markedGroup := by
  refine .ifHead (· = '<') (by decide) ?_ g.isReader_flagGroup rfl ?_
  · rintro _ rfl
    exact g.isReader_angleGroup
  · intro c cs hc
    simp [markedGroup, hc]

theorem isReader_openGroup (g : Progress) : IsReader never g.openGroup := by
  refine .ifHead (· = '?') (by decide) ?_ (.pure (g.enter true g.mode)) rfl ?_
  · rintro _ rfl
    refine .ifHead (· = 'P') (by decide) ?_ g.isReader_markedGroup rfl ?_
    · rintro _ rfl
      refine .ifHead (· = '<') (by decide) ?_ .fail rfl ?_
      · rintro _ rfl
        exact g.isReader_namedGroup
      · intro c cs hc
        have hletter : g.flagGroup ('P' :: c :: cs) = none := rfl
        simp [openGroup, hc, hletter]
    · intro c cs hc
      by_cases hangle : c = '<'
      · subst hangle
        rfl
      · simp [openGroup, markedGroup, hc, hangle]
  · intro c cs hc
    simp [openGroup, hc]

theorem isReader_parenthesis (g : Progress) : IsReader never g.parenthesis := by
  rw [funext g.parenthesis_eq]
  exact g.isReader_openGroup.afterSkip g.mode

theorem isReader_repeated (g : Progress) (least : Nat) (most : Option Nat) :
    IsReader never (g.repeated least most) := by
  refine .bindOption (g.group.repeated least most) fun group => ?_
  refine .ifHead (· = '?') (by decide) ?_ (.pure { g with group }) rfl ?_
  · rintro _ rfl
    exact .pure _
  · intro c cs hc
    simp [hc]

theorem isReader_counted (g : Progress) : IsReader never fun t => match g.mode.skip t with
    | [] => none
    | r => counts g.mode r >>= fun x => g.repeated x.1.1 x.1.2 (g.mode.skip x.2) := by
  have hnil : counts g.mode [] = none := by
    rw [counts_eq, decimal, List.dropWhile_nil, digits]
    rfl
  refine .afterSkipSome g.mode (k := fun r => counts g.mode r >>= fun x =>
    g.repeated x.1.1 x.1.2 (g.mode.skip x.2)) ?_ (by rw [hnil]; rfl)
  exact (isReader_counts g.mode).bind
    (fun x => (g.isReader_repeated x.1 x.2).afterSkip g.mode) fun h => h.elim

theorem eq_add_of_addElement {g g' : Progress} {e : Element} (h : g.addElement e = some g') :
    ∃ p, g' = g.add p := by
  cases e with
  | char c byte =>
    rw [addElement] at h
    split at h
    · cases h
    · exact ⟨_, (Option.some.inj h).symm⟩
  | set s => exact ⟨_, (Option.some.inj h).symm⟩
  | assertion a => exact ⟨_, (Option.some.inj h).symm⟩

/-- Each step is a reader. -/
theorem isReader_step (g : Progress) (c : Char) : IsReader AtBrace (g.step c) := by
  unfold step
  split
  · exact g.isReader_parenthesis.of_never
  · exact .mapOption g.leave id
  · exact .pure _
  · exact (isReader_bracketed g.mode).map (fun s => g.add (.set s)) fun h => h.elim
  · exact (g.isReader_repeated 0 (some 1)).of_never
  · exact (g.isReader_repeated 0 none).of_never
  · exact (g.isReader_repeated 1 none).of_never
  · refine (isReader_escape g.mode).bind
      (fun e => .bindOption (g.addElement e) fun g' => .pure g') ?_
    rintro e r g' r' ⟨-, hr⟩ h
    obtain ⟨g'', hg, h⟩ := Option.bind_eq_some_iff.1 h
    obtain ⟨p, rfl⟩ := eq_add_of_addElement hg
    cases h
    exact hr
  · exact .mapOption g.mode.dot fun s => g.add (.set s)
  · exact .pure _
  · exact .pure _
  · split
    · exact g.isReader_counted.of_never
    · exact .mapOption _ id

/-! ## Whole texts -/

theorem read_eq_of_lt {fuel fuel' : Nat} {g : Progress} {t : Text} (h : t.length < fuel)
    (h' : t.length < fuel') : g.read fuel t = g.read fuel' t := by
  induction fuel generalizing fuel' g t with
  | zero => exact absurd h (Nat.not_lt_zero _)
  | succ fuel ih =>
    obtain ⟨fuel', rfl⟩ : ∃ n, fuel' = n + 1 := ⟨fuel' - 1, by omega⟩
    simp only [read]
    split
    · rfl
    · next c cs hskip =>
      refine Option.bind_congr fun ⟨g', r⟩ hstep => ?_
      have hlength := ((g.isReader_step c).suffix hstep).length_le
      have hcs := (hskip ▸ length_skip_le g.mode t : (c :: cs).length ≤ t.length)
      rw [List.length_cons] at hcs
      have hr : r.length < fuel := by omega
      have hr' : r.length < fuel' := by omega
      exact ih hr hr'

/-- The pattern that the whole rest of a text makes of what has been read. -/
def readAll (g : Progress) (t : Text) : Option Pattern := g.read (t.length + 1) t

theorem readAll_nil {g : Progress} {t : Text} (h : g.mode.skip t = []) :
    g.readAll t = g.finish := by
  rw [readAll, read, h]

theorem readAll_cons {g : Progress} {t cs : Text} {c : Char} (h : g.mode.skip t = c :: cs) :
    g.readAll t = (g.step c cs).bind fun x => x.1.readAll x.2 := by
  have hcs := (h ▸ length_skip_le g.mode t : (c :: cs).length ≤ t.length)
  rw [List.length_cons] at hcs
  rw [readAll, read, h]
  refine Option.bind_congr fun ⟨g', r⟩ hstep => ?_
  have hlength := ((g.isReader_step c).suffix hstep).length_le
  exact read_eq_of_lt (by omega) (Nat.lt_succ_self _)

/-- What is read depends only on what the mode does not ignore. -/
theorem readAll_congr {g : Progress} {t t' : Text} (h : g.mode.skip t = g.mode.skip t') :
    g.readAll t = g.readAll t' := by
  cases hskip : g.mode.skip t with
  | nil => rw [readAll_nil hskip, readAll_nil (h ▸ hskip)]
  | cons c cs => rw [readAll_cons hskip, readAll_cons (h ▸ hskip)]

/-- The same progress inside some open groups. -/
def under (g : Progress) (os : List Group) : Progress := { g with outer := g.outer ++ os }

theorem finish_under {g : Progress} {os : List Group} (hos : os ≠ []) :
    (g.under os).finish = none := by
  rw [finish, under]
  cases g.outer with
  | nil =>
    cases os with
    | nil => exact absurd rfl hos
    | cons o os => rfl
  | cons o os' => rfl

theorem under_nil (g : Progress) : g.under [] = g := by
  rw [under, List.append_nil]

theorem repeated_under (g : Progress) (os : List Group) (least : Nat) (most : Option Nat)
    (t : Text) : (g.under os).repeated least most t =
      (g.repeated least most t).map fun x => (x.1.under os, x.2) := by
  simp only [repeated, under]
  cases g.group.repeated least most <;> rfl

theorem namedGroup_under (g : Progress) (os : List Group) (t : Text) :
    (g.under os).namedGroup t = (g.namedGroup t).map fun x => (x.1.under os, x.2) := by
  rw [namedGroup, namedGroup, Option.bind_eq_bind, Option.map_bind]
  refine Option.bind_congr fun x _ => ?_
  dsimp only [Function.comp]
  rw [Option.bind_eq_bind, Option.map_bind]
  rfl

theorem angleGroup_under (g : Progress) (os : List Group) (t : Text) :
    (g.under os).angleGroup t = (g.angleGroup t).map fun x => (x.1.under os, x.2) := by
  unfold angleGroup
  split
  · rfl
  · rfl
  · exact g.namedGroup_under os t

theorem flagGroup_under (g : Progress) (os : List Group) (t : Text) :
    (g.under os).flagGroup t = (g.flagGroup t).map fun x => (x.1.under os, x.2) := by
  rw [flagGroup, flagGroup, Option.map_bind]
  refine Option.bind_congr fun x _ => ?_
  dsimp only [Function.comp]
  by_cases hclosed : x.2.2.1 = true
  · rw [if_pos hclosed, if_pos hclosed, Option.bind_eq_bind, Option.map_bind]
    rfl
  · rw [if_neg hclosed, if_neg hclosed]
    rfl

theorem parenthesis_under (g : Progress) (os : List Group) (t : Text) :
    (g.under os).parenthesis t = (g.parenthesis t).map fun x => (x.1.under os, x.2) := by
  rw [parenthesis_eq, parenthesis_eq]
  change (g.under os).openGroup (g.mode.skip t) = _
  unfold openGroup
  split
  · exact g.namedGroup_under os _
  · exact g.angleGroup_under os _
  · exact g.flagGroup_under os _
  · rfl

theorem addElement_under (g : Progress) (os : List Group) (e : Element) :
    (g.under os).addElement e = (g.addElement e).map (·.under os) := by
  cases e with
  | char c byte =>
    simp only [addElement]
    change (if byte && g.mode.ascii && 128 ≤ c.toNat then none else _) = _
    split <;> rfl
  | set s => rfl
  | assertion a => rfl

theorem leave_under {g : Progress} (h : g.outer ≠ []) (os : List Group) :
    (g.under os).leave = g.leave.map (·.under os) := by
  simp only [leave, under]
  cases houter : g.outer with
  | nil => exact absurd houter h
  | cons o os' => rfl

/-- A step inside more groups, unless it closes the group that they were put around. -/
theorem step_under (g : Progress) (os : List Group) (c : Char) (t : Text)
    (h : c = ')' → g.outer ≠ []) :
    (g.under os).step c t = (g.step c t).map fun x => (x.1.under os, x.2) := by
  unfold step
  split
  · exact g.parenthesis_under os t
  · rw [leave_under (h rfl), Option.map_map, Option.map_map]
    rfl
  · rfl
  · rw [Option.map_map]
    rfl
  · exact g.repeated_under os 0 (some 1) t
  · exact g.repeated_under os 0 none t
  · exact g.repeated_under os 1 none t
  · simp only [Option.bind_eq_bind, Option.map_bind, addElement_under]
    refine Option.bind_congr fun x _ => ?_
    change _ = ((g.addElement x.1).bind fun g' => some (g', x.2)).map _
    rw [Option.bind_map, Option.map_bind]
    rfl
  · rw [Option.map_map]
    rfl
  · rfl
  · rfl
  · split
    · change (match g.mode.skip t with
        | [] => none
        | r => (counts g.mode r).bind fun x =>
          (g.under os).repeated x.1.1 x.1.2 (g.mode.skip x.2)) =
        Option.map _ (match g.mode.skip t with
          | [] => none
          | r => (counts g.mode r).bind fun x => g.repeated x.1.1 x.1.2 (g.mode.skip x.2))
      split
      · rfl
      · simp only [repeated_under, Option.map_bind]
        rfl
    · rw [addElement_under, Option.map_map, Option.map_map]
      rfl

/-! ## The outermost group -/

/-- The outermost of some groups, each in the next one. -/
def outermost (group : Group) : List Group → Group
  | [] => group
  | o :: os => outermost o os

/-- Two groups are opened in the same way. -/
def OpenedAs (o o' : Group) : Prop := o.capturing = o'.capturing ∧ o.outerMode = o'.outerMode

theorem OpenedAs.trans {o o' o'' : Group} (h : OpenedAs o o') (h' : OpenedAs o' o'') :
    OpenedAs o o'' := ⟨h.1.trans h'.1, h.2.trans h'.2⟩

theorem OpenedAs.outermost {o o' : Group} (h : OpenedAs o o') (os : List Group) :
    OpenedAs (outermost o os) (outermost o' os) := by
  cases os with
  | nil => exact h
  | cons o os => exact ⟨rfl, rfl⟩

theorem parenthesis_cases {g g' : Progress} {t r : Text} (h : g.parenthesis t = some (g', r)) :
    (g'.outer = g.outer ∧ OpenedAs g'.group g.group) ∨ g'.outer = g.group :: g.outer := by
  have hnamed {t : Text} (h : g.namedGroup t = some (g', r)) : g'.outer = g.group :: g.outer := by
    obtain ⟨x, -, h⟩ := Option.bind_eq_some_iff.1 h
    obtain ⟨_, -, h⟩ := Option.bind_eq_some_iff.1 h
    cases h
    rfl
  rw [parenthesis_eq] at h
  unfold openGroup at h
  split at h
  · exact .inr (hnamed h)
  · unfold angleGroup at h
    split at h
    · cases h
    · cases h
    · exact .inr (hnamed h)
  · obtain ⟨x, -, h⟩ := Option.bind_eq_some_iff.1 h
    by_cases hclosed : x.2.2.1 = true
    · rw [if_pos hclosed] at h
      obtain ⟨_, -, h⟩ := Option.bind_eq_some_iff.1 h
      cases h
      exact .inl ⟨rfl, rfl, rfl⟩
    · rw [if_neg hclosed] at h
      cases h
      exact .inr rfl
  · cases h
    exact .inr rfl

theorem repeated_cases {g g' : Progress} {least : Nat} {most : Option Nat} {t r : Text}
    (h : g.repeated least most t = some (g', r)) :
    g'.outer = g.outer ∧ OpenedAs g'.group g.group := by
  obtain ⟨group, hgroup, h⟩ := Option.bind_eq_some_iff.1 h
  cases h
  unfold Group.repeated at hgroup
  split at hgroup
  · cases hgroup
    exact ⟨rfl, rfl, rfl⟩
  · cases hgroup

/-- A step changes the innermost group, opens a group inside it, or closes it. -/
theorem step_cases {g g' : Progress} {c : Char} {t r : Text} (h : g.step c t = some (g', r)) :
    (g'.outer = g.outer ∧ OpenedAs g'.group g.group) ∨ g'.outer = g.group :: g.outer ∨
      ∃ o, g.outer = o :: g'.outer ∧ OpenedAs g'.group o := by
  have helement {e : Element} (h : g.addElement e = some g') :
      g'.outer = g.outer ∧ OpenedAs g'.group g.group := by
    obtain ⟨p, rfl⟩ := eq_add_of_addElement h
    exact ⟨rfl, rfl, rfl⟩
  unfold step at h
  split at h
  · rcases parenthesis_cases h with h | h
    · exact .inl h
    · exact .inr (.inl h)
  · obtain ⟨g'', hleave, h⟩ := Option.map_eq_some_iff.1 h
    cases h
    unfold leave at hleave
    split at hleave
    · cases hleave
    · next o os houter =>
      cases hleave
      exact .inr (.inr ⟨o, houter, rfl, rfl⟩)
  · cases h
    exact .inl ⟨rfl, rfl, rfl⟩
  · obtain ⟨x, -, h⟩ := Option.map_eq_some_iff.1 h
    cases h
    exact .inl ⟨rfl, rfl, rfl⟩
  · exact .inl (repeated_cases h)
  · exact .inl (repeated_cases h)
  · exact .inl (repeated_cases h)
  · obtain ⟨x, -, h⟩ := Option.bind_eq_some_iff.1 h
    obtain ⟨g'', hg, h⟩ := Option.bind_eq_some_iff.1 h
    cases h
    exact .inl (helement hg)
  · obtain ⟨x, -, h⟩ := Option.map_eq_some_iff.1 h
    cases h
    exact .inl ⟨rfl, rfl, rfl⟩
  · cases h
    exact .inl ⟨rfl, rfl, rfl⟩
  · cases h
    exact .inl ⟨rfl, rfl, rfl⟩
  · split at h
    · dsimp only at h
      split at h
      · cases h
      · obtain ⟨x, -, h⟩ := Option.bind_eq_some_iff.1 h
        exact .inl (repeated_cases h)
    · obtain ⟨g'', hg, h⟩ := Option.map_eq_some_iff.1 h
      cases h
      exact .inl (helement hg)

theorem step_outermost {g g' : Progress} {c : Char} {t r : Text} (h : g.step c t = some (g', r)) :
    OpenedAs (outermost g'.group g'.outer) (outermost g.group g.outer) := by
  rcases step_cases h with ⟨houter, hgroup⟩ | houter | ⟨o, houter, hgroup⟩
  · rw [houter]
    exact hgroup.outermost g.outer
  · rw [houter]
    exact ⟨rfl, rfl⟩
  · rw [houter]
    exact hgroup.outermost g'.outer

/-! ## Texts in front of a closing parenthesis -/

theorem outer_ne_nil {g : Progress} {c : Char} {t : Text} {x : Progress × Text}
    (h : g.step c t = some x) : c = ')' → g.outer ≠ [] := by
  rintro rfl houter
  obtain ⟨g', hleave, -⟩ := Option.map_eq_some_iff.1 h
  rw [leave, houter] at hleave
  cases hleave

theorem readAll_under_cons {g : Progress} {os : List Group} {t cs : Text} {c : Char}
    (hskip : g.mode.skip t = c :: cs) (hc : c = ')' → g.outer ≠ []) :
    (g.under os).readAll t = (g.step c cs).bind fun x => (x.1.under os).readAll x.2 := by
  rw [readAll_cons (g := g.under os) hskip, g.step_under os c cs hc, Option.bind_map]
  rfl

theorem skip_paren (m : Mode) (more : Text) : m.skip (')' :: more) = ')' :: more :=
  skip_cons (by decide) (by decide) m more

/-- Reading a text leads from `g` to `g'`, and a closing parenthesis behind the text is read from
there. -/
structure Reads (g : Progress) (t : Text) (g' : Progress) : Prop where
  whole : g.readAll t = g'.finish
  closed : ∀ os more, (g.under os).readAll (t ++ ')' :: more) = (g'.under os).readAll (')' :: more)

/-- Reading a text leads from `g` to `g'`, and a closing parenthesis behind the text is lost in a
comment. -/
structure EndsInComment (g : Progress) (t : Text) (g' : Progress) : Prop where
  whole : g.readAll t = g'.finish
  lost : ∀ os more, '\n' ∉ more → (g.under os).readAll (t ++ ')' :: more) = (g'.under os).finish

theorem reads_of_skip {g : Progress} {t : Text} (hnil : g.mode.skip t = [])
    (hleaves : Leaves (fun more => some ((), g.mode.skip (t ++ ')' :: more))) () []) :
    Reads g t g := by
  refine ⟨readAll_nil hnil, fun os more => readAll_congr ?_⟩
  exact ((Prod.mk.inj (Option.some.inj (hleaves more))).2).trans (skip_paren g.mode more).symm

section

variable {g g₁ g' : Progress} {t cs r : Text} {c : Char}

theorem skip_append_cons (hskip : g.mode.skip t = c :: cs) (more : Text) :
    g.mode.skip (t ++ ')' :: more) = c :: (cs ++ ')' :: more) := by
  rw [skip_append (hskip ▸ List.cons_ne_nil c cs), hskip]
  rfl

theorem length_lt_of_step (hskip : g.mode.skip t = c :: cs) (hstep : g.step c cs = some (g₁, r)) :
    r.length < t.length := by
  have hr := ((g.isReader_step c).suffix hstep).length_le
  have hcs := length_skip_le g.mode t
  rw [hskip, List.length_cons] at hcs
  omega

theorem Reads.step (hskip : g.mode.skip t = c :: cs) (hstep : g.step c cs = some (g₁, r))
    (hleaves : Leaves (fun more => g.step c (cs ++ ')' :: more)) g₁ r) (h : Reads g₁ r g') :
    Reads g t g' where
  whole := by
    rw [readAll_cons hskip, hstep]
    exact h.whole
  closed os more := by
    have hmore : g.step c (cs ++ ')' :: more) = some (g₁, r ++ ')' :: more) := hleaves more
    rw [readAll_under_cons (skip_append_cons hskip more) (outer_ne_nil hstep), hmore]
    exact h.closed os more

theorem EndsInComment.step (hskip : g.mode.skip t = c :: cs) (hstep : g.step c cs = some (g₁, r))
    (hleaves : Leaves (fun more => g.step c (cs ++ ')' :: more)) g₁ r) (h : EndsInComment g₁ r g') :
    EndsInComment g t g' where
  whole := by
    rw [readAll_cons hskip, hstep]
    exact h.whole
  lost os more hline := by
    have hmore : g.step c (cs ++ ')' :: more) = some (g₁, r ++ ')' :: more) := hleaves more
    rw [readAll_under_cons (skip_append_cons hskip more) (outer_ne_nil hstep), hmore]
    exact h.lost os more hline

/-- A step in which a comment swallows the parenthesis. -/
theorem endsInComment_of_step (hskip : g.mode.skip t = c :: cs)
    (hstep : g.step c cs = some (g₁, []))
    (hswallows : Swallows (fun more => g.step c (cs ++ ')' :: more)) g₁) :
    EndsInComment g t g₁ where
  whole := by
    rw [readAll_cons hskip, hstep]
    exact readAll_nil (skip_nil g₁.mode)
  lost os more hline := by
    have hmore : g.step c (cs ++ ')' :: more) = some (g₁, []) := hswallows.line hline
    rw [readAll_under_cons (skip_append_cons hskip more) (outer_ne_nil hstep), hmore]
    exact readAll_nil (skip_nil g₁.mode)

end

/-- A text that is read whole either leaves a parenthesis behind it alone or ends in a comment. -/
theorem exists_reads {g : Progress} {t : Text} {p : Pattern} (h : g.readAll t = some p) :
    ∃ g', g'.finish = some p ∧
      OpenedAs (outermost g'.group g'.outer) (outermost g.group g.outer) ∧
      (Reads g t g' ∨ EndsInComment g t g') := by
  induction hn : t.length using Nat.strongRecOn generalizing g t with
  | ind n ih =>
  subst hn
  cases hskip : g.mode.skip t with
  | nil =>
    rw [readAll_nil hskip] at h
    refine ⟨g, h, ⟨rfl, rfl⟩, ?_⟩
    rcases ((isReader_skip g.mode).continues t).lift rfl with hleaves | ⟨-, hswallows⟩
    · rw [hskip] at hleaves
      exact .inl (reads_of_skip hskip hleaves)
    · refine .inr ⟨readAll_nil hskip, fun os more hline => ?_⟩
      exact readAll_nil (Prod.mk.inj (Option.some.inj (hswallows.line hline))).2
  | cons c cs =>
    rw [readAll_cons hskip] at h
    obtain ⟨⟨g₁, r⟩, hstep, hrest⟩ := Option.bind_eq_some_iff.1 h
    rcases ((g.isReader_step c).continues cs).lift hstep with hleaves | ⟨rfl, hswallows⟩
    · obtain ⟨g', hfinish, hopened, hreads⟩ := ih r.length (length_lt_of_step hskip hstep) hrest rfl
      refine ⟨g', hfinish, hopened.trans (step_outermost hstep), ?_⟩
      exact hreads.imp (.step hskip hstep hleaves) (.step hskip hstep hleaves)
    · rw [readAll_nil (skip_nil g₁.mode)] at hrest
      exact ⟨g₁, hrest, step_outermost hstep, .inr (endsInComment_of_step hskip hstep hswallows)⟩

end ScriptStyle.Pattern.Progress
