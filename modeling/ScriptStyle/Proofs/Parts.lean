import ScriptStyle.Proofs.Readers
import ScriptStyle.Pattern.ReadSet

/-!
# Reading the small parts of a pattern

Each of the functions that read a small part of a pattern is a reader: in front of a closing
parenthesis it reads what it reads at the end of a text. Only the assertion of a boundary can stall.
It may be followed by a brace that opens a name or, if no letter comes next, stands for something
else, and a parenthesis is no letter.
-/

namespace ScriptStyle.Pattern

/-! ## Escapes -/

theorem isReader_hexDigits (m : Mode) (value n : Nat) :
    IsReader never (hexDigits m value n) := by
  induction n generalizing value with
  | zero => exact .pure value
  | succ n ih => exact .uncons rfl fun c => .bindOption (hexValue? c) fun d => (ih _).afterSkip m

theorem isReader_hexBraced (m : Mode) (value : Option Nat) :
    IsReader never (hexBraced m value) := by
  refine .scan m (k := hexBraced m) (fun value => by rw [hexBraced]) (fun value c => ?_) value
  simp only [hexBraced]
  by_cases hc : c.toNat = 125
  · left
    simp only [if_pos hc]
    exact .afterSkip m (.mapOption value id)
  · cases hd : hexValue? c with
    | none =>
      left
      simp only [if_neg hc]
      exact .fail
    | some d => exact .inr ⟨some (16 * value.getD 0 + d), fun cs => by rw [if_neg hc]; rfl⟩

theorem isReader_braced (m : Mode) (name : Text) : IsReader never (braced m name) := by
  refine .scan m (k := braced m) (fun name => by rw [braced]) (fun name c => ?_) name
  simp only [braced]
  by_cases hc : c.toNat = 125
  · left
    simp only [if_pos hc]
    exact .pure name.reverse
  · exact .inr ⟨c :: name, fun cs => if_neg hc⟩

/-- A character by its number, with as many digits as the letter before it asks for. -/
def hexCounted (m : Mode) (letter : Char) (t : Text) : Option (Element × Text) := do
  let count := match letter with
    | 'x' => 2
    | 'u' => 4
    | _ => 8
  let (n, r) ← hexDigits m 0 count t
  some (.char (← charOf? n) (letter = 'x'), r)

theorem isReader_hexEscape (m : Mode) (letter : Char) :
    IsReader never (hexEscape m letter) := by
  refine .ifHead (fun c => c.toNat = 123) (by decide) (l := hexCounted m letter) ?_ ?_ ?_ ?_
  · intro c hc
    simp only [hexEscape, if_pos hc]
    exact ((isReader_hexBraced m none).afterSkip m).bind
      (fun n => .bindOption (charOf? n) fun c => .pure _) fun h => h.elim
  · exact (isReader_hexDigits m 0 _).bind (fun n => .bindOption (charOf? n) fun c => .pure _)
      fun h => h.elim
  · unfold hexCounted
    split <;> rfl
  · intro c cs hc
    exact if_neg hc

theorem isReader_propertyEscape (m : Mode) (letter : Char) :
    IsReader never (propertyEscape m letter) := by
  refine .bindOption (guard (!m.ascii)) fun _ => .uncons rfl fun c => .ite ?_ (.ite .fail ?_)
  · refine ((isReader_braced m []).afterSkip m).bind (fun name => ?_) fun h => h.elim
    dsimp only
    cases valueOf? name <;> exact .bindOption _ fun k => .bindOption _ fun s => .pure _
  · refine (IsReader.afterSkip m (.pure (s := never) [c])).bind (fun name => ?_) fun h => h.elim
    dsimp only
    cases valueOf? name <;> exact .bindOption _ fun k => .bindOption _ fun s => .pure _

/-- Nothing that counts stands behind an opening brace. -/
def OpensBrace (m : Mode) (r : Text) : Prop := ∃ c cs, r = c :: cs ∧ c.toNat = 123 ∧ m.skip cs = []

/-- The kind of a boundary, read from its name on. -/
def boundaryKind (m : Mode) (t : Text) : Option (Option BoundaryKind × Text) := do
  let (name, r) ← braced m [] t
  guard (name.all fun c => c.isAlpha || c = '-')
  let (_, kind) ← boundaryNames.find? (·.1.toList = name)
  some (some kind, r)

theorem isReader_boundaryKind (m : Mode) : IsReader never (boundaryKind m) :=
  (isReader_braced m []).bind (fun _ => .bindOption _ fun _ => .bindOption _ fun _ => .pure _)
    fun h => h.elim

theorem boundaryName_eq (m : Mode) (t : Text) : boundaryName m t =
    match t with
    | [] => some (none, [])
    | c :: cs =>
      if c.toNat = 123 then
        match m.skip cs with
        | [] => none
        | d :: ds =>
          if d.isAlpha || d = '-' then boundaryKind m (d :: ds) else some (none, c :: cs)
      else some (none, c :: cs) := by
  cases t <;> rfl

/-- A brace with nothing behind it that counts is an error, but a parenthesis behind it begins no
name and leaves it alone. -/
theorem continues_opensBrace {m : Mode} {c : Char} {cs : Text} (hc : c.toNat = 123)
    (hskip : m.skip cs = []) :
    Continues (fun _ => OpensBrace m) (boundaryName m (c :: cs)) fun more =>
      boundaryName m (c :: (cs ++ ')' :: more)) := by
  simp only [boundaryName_eq, if_pos hc, hskip]
  refine .none fun {a r more} h => ?_
  split at h
  · cases h
  · next hlonger =>
    split at h
    · rw [← hlonger] at h
      have hdrop := (((isReader_boundaryKind m).afterSkip m).continues cs).drop h id
      rw [hskip, boundaryKind, braced] at hdrop
      cases hdrop
    · obtain ⟨rfl, hr⟩ := Prod.mk.inj (Option.some.inj h)
      rw [← List.cons_append] at hr
      obtain rfl := List.append_cancel_right hr
      exact ⟨c, cs, rfl, hc, hskip⟩

theorem isReader_boundaryName (m : Mode) :
    IsReader (fun _ => OpensBrace m) (boundaryName m) where
  suffix := by
    intro t a r h
    rw [boundaryName_eq] at h
    split at h
    · cases h
      exact List.suffix_refl _
    · split at h
      · split at h
        · cases h
        · next hskip =>
          split at h
          · have hr := (isReader_boundaryKind m).suffix h
            rw [← hskip] at hr
            exact (hr.trans (skip_suffix m _)).trans (List.suffix_cons _ _)
          · cases h
            exact List.suffix_refl _
      · cases h
        exact List.suffix_refl _
  continues t := by
    rcases t with _ | ⟨c, cs⟩
    · exact (IsReader.pure none).continues []
    by_cases hc : c.toNat = 123
    · rcases hskip : m.skip cs with _ | ⟨d, ds⟩
      · exact continues_opensBrace hc hskip
      · have hlonger := skip_append (hskip ▸ List.cons_ne_nil d ds : m.skip cs ≠ [])
        simp only [List.cons_append, boundaryName_eq, if_pos hc, hlonger, hskip]
        split
        · exact (isReader_boundaryKind m).of_never.continues (d :: ds)
        · exact (IsReader.pure none).continues (c :: cs)
    · simp only [List.cons_append, boundaryName_eq, if_neg hc]
      exact (IsReader.pure none).continues (c :: cs)

/-- The assertion of a boundary was read up to a brace that nothing explains. -/
def AtBrace (m : Mode) (e : Element) (r : Text) : Prop := (∃ a, e = .assertion a) ∧ OpensBrace m r

theorem isReader_escape (m : Mode) : IsReader (AtBrace m) (escape m) := by
  have hproperty (letter : Char) : propertyEscape m letter [] = none := by
    rw [propertyEscape]
    cases m.ascii <;> rfl
  refine .uncons rfl fun c => ?_
  unfold escape
  dsimp only
  split
  case h_1 | h_2 | h_3 => exact .afterSkipSome m (isReader_hexEscape m _).of_never rfl
  case h_4 | h_5 => exact .afterSkipSome m (isReader_propertyEscape m _).of_never (hproperty _)
  case h_6 | h_7 | h_8 | h_9 | h_10 | h_11 => exact .mapOption _ _
  case h_20 =>
    refine (isReader_boundaryName m).bind
      (fun kind => .pure (Element.assertion (.boundary (kind.getD .edge) m.word))) fun hr h => ?_
    cases h
    exact ⟨⟨_, rfl⟩, hr⟩
  case h_24 => exact .ite (.pure _) .fail
  all_goals exact .pure _

/-! ## Counts, flags and names -/

theorem digits_suffix (m : Mode) (t : Text) : (digits m t).2 <:+ t := by
  fun_induction digits m t with
  | case1 => exact List.suffix_refl _
  | case2 c cs hc ds r hr ih =>
    rw [hr] at ih
    exact (ih.trans (skip_suffix m cs)).trans (List.suffix_cons c cs)
  | case3 c cs hc => exact List.suffix_refl _

theorem isReader_digits (m : Mode) : IsReader never fun t => some (digits m t) where
  suffix := by
    intro t ds r h
    have hr := digits_suffix m t
    rw [Option.some.inj h] at hr
    exact hr
  continues t := by
    fun_induction digits m t with
    | case1 =>
      simp only [List.nil_append, digits]
      exact (IsReader.pure []).continues []
    | case2 c cs hc ds r hr ih =>
      have heq : (c :: ds, r) = (c :: (digits m (m.skip cs)).1, (digits m (m.skip cs)).2) := by
        rw [hr]
      rw [heq]
      simp only [List.cons_append, digits, if_pos hc]
      refine continues_skip m (k := fun t => some (c :: (digits m t).1, (digits m t).2)) ?_ cs
        (ih.map (c :: ·) fun h => h)
      intro t a r h
      cases h
      exact digits_suffix m t
    | case3 c cs hc =>
      simp only [List.cons_append, digits, if_neg hc]
      exact (IsReader.pure []).continues (c :: cs)

/-- The number that some digits make, and the text behind it and the blanks there. -/
def number (m : Mode) (x : List Char × Text) : Option (Nat × Text) := do
  guard !x.1.isEmpty
  let n := x.1.foldl (fun n d => 10 * n + (d.toNat - 48)) 0
  guard (n ≤ countLimit)
  some (n, m.skip (x.2.dropWhile Characters.isWhiteSpace))

theorem isReader_decimal (m : Mode) : IsReader never (decimal m) := by
  have hspace : Characters.isWhiteSpace ')' = false := by decide
  have hnumber (n : Nat) : IsReader never fun t => some (n, m.skip t) :=
    IsReader.afterSkip m (.pure n)
  refine IsReader.afterDropWhile Characters.isWhiteSpace hspace (k := fun t =>
    some (digits m t) >>= number m) ?_
  refine (isReader_digits m).bind (fun ds => ?_) fun h => h.elim
  dsimp only [number]
  refine .bindOption (guard ((!ds.isEmpty) = true)) fun _ => ?_
  refine .bindOption (guard (_ ≤ countLimit)) fun _ => ?_
  exact (hnumber _).afterDropWhile _ hspace

/-- The brace that closes a counted repetition. -/
def countsEnd (least : Nat) (most : Option Nat) : Text → Option ((Nat × Option Nat) × Text)
  | c :: cs => if c.toNat = 125 && most.all (least ≤ ·) then some ((least, most), cs) else none
  | [] => none

/-- The second number of a counted repetition, if there is one, and the brace. -/
def countsMost (m : Mode) (least : Nat) : Text → Option ((Nat × Option Nat) × Text)
  | [] => none
  | c :: cs =>
    if c.toNat = 125 then countsEnd least none (c :: cs)
    else decimal m (c :: cs) >>= fun x => countsEnd least (some x.1) x.2

theorem isReader_countsEnd (least : Nat) (most : Option Nat) :
    IsReader never (countsEnd least most) :=
  .uncons rfl fun _ => .ite (.pure _) .fail

theorem isReader_countsMost (m : Mode) (least : Nat) : IsReader never (countsMost m least) := by
  refine .ifHead (fun c => c.toNat = 125) (by decide)
    (l := fun t => decimal m t >>= fun x => countsEnd least (some x.1) x.2) ?_ ?_ ?_ ?_
  · intro c hc
    simp only [countsMost, if_pos hc]
    exact .ite (.pure _) .fail
  · exact (isReader_decimal m).bind (fun most => isReader_countsEnd least (some most))
      fun h => h.elim
  · rw [countsMost, decimal, List.dropWhile_nil, digits]
    rfl
  · intro c cs hc
    exact if_neg hc

/-- What stands behind the first number of a counted repetition. -/
def countsRest (m : Mode) (least : Nat) (t : Text) : Option ((Nat × Option Nat) × Text) :=
  match t with
  | ',' :: r => countsMost m least (m.skip r)
  | r => countsEnd least (some least) r

theorem isReader_countsRest (m : Mode) (least : Nat) : IsReader never (countsRest m least) := by
  refine .ifHead (· = ',') (by decide) ?_ (isReader_countsEnd least (some least)) rfl ?_
  · rintro _ rfl
    exact (isReader_countsMost m least).afterSkip m
  · intro c cs hc
    simp [countsRest, hc]

theorem counts_eq (m : Mode) (t : Text) :
    counts m t = (decimal m t).bind fun x => countsRest m x.1 x.2 := by
  rw [counts]
  congr 1
  funext ⟨least, r⟩
  dsimp only
  split
  · next r =>
    change _ = countsMost m least (m.skip r)
    rcases m.skip r with _ | ⟨c, cs⟩
    · rfl
    · rw [countsMost]
      dsimp only
      split <;> rfl
  · next h =>
    unfold countsRest
    split
    · exact absurd rfl (h _)
    · rfl

theorem isReader_counts (m : Mode) : IsReader never (counts m) := by
  rw [funext (counts_eq m)]
  exact (isReader_decimal m).bind (fun least => isReader_countsRest m least) fun h => h.elim

theorem isReader_groupName (name : Text) : IsReader never (groupName name) := by
  refine .scan {} (k := groupName) (fun name => rfl) (fun name c => ?_) name
  simp only [groupName]
  by_cases hc : c = '>'
  · left
    simp only [if_pos hc]
    exact .ite .fail (.pure _)
  · simp only [if_neg hc]
    split
    · exact .inr ⟨c :: name, fun cs => rfl⟩
    · exact .inl .fail

/-- The result of `flags` with the text behind it set apart. -/
def letters (x : Mode × List Char × Bool × Bool) (t : Text) :
    Option ((Mode × Bool × Bool) × Text) :=
  (flags x.1 x.2.1 x.2.2.1 x.2.2.2 t).map fun y => ((y.1, y.2.1, y.2.2.1), y.2.2.2)

theorem isReader_letters (x : Mode × List Char × Bool × Bool) : IsReader never (letters x) := by
  refine .scan {} (k := letters) (fun x => rfl) ?_ x
  rintro ⟨m, seen, on, dangling⟩ c
  simp only [letters, flags]
  split
  · left
    split
    · exact .fail
    · exact .pure (m, !seen.isEmpty || !on, decide (c = ')'))
  · split
    · split
      · exact .inr ⟨(m, seen, false, true), fun cs => rfl⟩
      · exact .inl .fail
    · split
      · exact .inl .fail
      · split
        · next m' _ => exact .inr ⟨(m', c :: seen, on, false), fun cs => rfl⟩
        · exact .inl .fail

end ScriptStyle.Pattern
