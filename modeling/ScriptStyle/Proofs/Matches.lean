import ScriptStyle.Pattern.Basic

/-!
# What a pattern matches

To run a pattern is to compute lists of places. `Pattern.Matches` says without any list which places
a match that begins at a place may end at: one clause for each way to build a pattern, and every
choice is allowed. `Pattern.mem_run` says that running a pattern finds all of these places and no
others.

The clause that takes work is repetition. A round of it may lead nowhere, and only finitely many
rounds are run; but rounds that lead nowhere can be left out, and each of the others uses up a
character, so `Pattern.rounds` are enough.
-/

namespace ScriptStyle

/-- A relation followed so many times. -/
def Rounds {α : Type} (r : α → α → Prop) : Nat → α → α → Prop
  | 0, x, z => x = z
  | n + 1, x, z => ∃ y, r x y ∧ Rounds r n y z

theorem Rounds.add {α : Type} {r : α → α → Prop} {m n : Nat} {x z : α} :
    Rounds r (m + n) x z ↔ ∃ y, Rounds r m x y ∧ Rounds r n y z := by
  induction m generalizing x with
  | zero => simp [Rounds]
  | succ m ih =>
    rw [Nat.succ_add]
    constructor
    · rintro ⟨y, hy, hz⟩
      obtain ⟨w, hw, hz⟩ := ih.1 hz
      exact ⟨w, ⟨y, hy, hw⟩, hz⟩
    · rintro ⟨w, ⟨y, hy, hw⟩, hz⟩
      exact ⟨y, hy, ih.2 ⟨w, hw, hz⟩⟩

namespace Place

/-- The place at the end of a text. -/
def ending (t : Text) : Place := ⟨t.reverse, []⟩

/-- A place is reached from another one by passing over characters. -/
def Reaches (x y : Place) : Prop :=
  ∃ u : Text, x.after = u ++ y.after ∧ y.before = u.reverse ++ x.before

variable {x y z : Place}

theorem Reaches.refl (x : Place) : x.Reaches x := ⟨[], rfl, rfl⟩

theorem Reaches.trans (h : x.Reaches y) (h' : y.Reaches z) : x.Reaches z := by
  obtain ⟨u, hu, hu'⟩ := h
  obtain ⟨v, hv, hv'⟩ := h'
  exact ⟨u ++ v, by rw [hu, hv, List.append_assoc], by rw [hv', hu', List.reverse_append,
    List.append_assoc]⟩

/-- To reach another place is to use up characters. -/
theorem Reaches.eq_or_lt (h : x.Reaches y) : y = x ∨ y.after.length < x.after.length := by
  obtain ⟨u, hu, hu'⟩ := h
  cases u with
  | nil =>
    left
    rcases x with ⟨before, after⟩
    rcases y with ⟨before', after'⟩
    simp_all
  | cons c u =>
    right
    rw [hu, List.length_append, List.length_cons]
    omega

theorem Reaches.rounds {r : Place → Place → Prop} (hr : ∀ x y, r x y → x.Reaches y) {n : Nat}
    {x z : Place} (h : Rounds r n x z) : x.Reaches z := by
  induction n generalizing x with
  | zero =>
    cases h
    exact .refl _
  | succ n ih =>
    obtain ⟨y, hy, hz⟩ := h
    exact (hr x y hy).trans (ih hz)

/-- Rounds that lead nowhere can be left out. -/
theorem exists_rounds_le {r : Place → Place → Prop} (hr : ∀ x y, r x y → x.Reaches y) {n : Nat}
    {x z : Place} (h : Rounds r n x z) : ∃ k, k ≤ n ∧ k ≤ x.after.length ∧ Rounds r k x z := by
  induction n generalizing x with
  | zero => exact ⟨0, Nat.le_refl _, Nat.zero_le _, h⟩
  | succ n ih =>
    obtain ⟨y, hy, hz⟩ := h
    obtain ⟨k, hkn, hky, hk⟩ := ih hz
    rcases (hr x y hy).eq_or_lt with rfl | hlt
    · exact ⟨k, by omega, hky, hk⟩
    · exact ⟨k + 1, by omega, by omega, y, hy, hk⟩

theorem reaches_of_past? {s : CharacterSet} (h : x.past? s = some y) : x.Reaches y := by
  rcases x with ⟨before, _ | ⟨c, cs⟩⟩
  · cases h
  · rw [past?] at h
    split at h
    · cases h
      exact ⟨[c], rfl, rfl⟩
    · cases h

end Place

namespace Pattern

/-- A match of a pattern may begin at one place and end at another. A repetition is matched at least
`least` times, and `most - least` times more at most. -/
def Matches : Pattern → Place → Place → Prop
  | empty, x, y => x = y
  | set s, x, y => x.past? s = some y
  | assertion a, x, y => a.holds x = true ∧ x = y
  | concat p q, x, z => ∃ y, p.Matches x y ∧ q.Matches y z
  | alternation p q, x, y => p.Matches x y ∨ q.Matches x y
  | repetition p least most, x, y =>
    ∃ n, (∀ m, most = some m → n ≤ m - least) ∧ Rounds p.Matches (least + n) x y
  | capture p, x, y => p.Matches x y

/-- A match never leads back. -/
theorem Matches.reaches {p : Pattern} {x y : Place} (h : p.Matches x y) : x.Reaches y := by
  induction p generalizing x y with
  | empty =>
    cases h
    exact .refl x
  | set s => exact Place.reaches_of_past? h
  | assertion a =>
    obtain ⟨-, rfl⟩ := h
    exact .refl x
  | concat p q ihp ihq =>
    obtain ⟨z, hp, hq⟩ := h
    exact (ihp hp).trans (ihq hq)
  | alternation p q ihp ihq =>
    rcases h with h | h
    · exact ihp h
    · exact ihq h
  | repetition p least most ih =>
    obtain ⟨n, -, hn⟩ := h
    exact Place.Reaches.rounds (fun x y => ih) hn
  | capture p ih => exact ih h

/-! ## Repetition -/

section

variable {f : List Place → List Place} {r : Place → Place → Prop}

theorem mem_times (hf : ∀ xs y, y ∈ f xs ↔ ∃ x ∈ xs, r x y) (n : Nat) (xs : List Place)
    (y : Place) : y ∈ times f n xs ↔ ∃ x ∈ xs, Rounds r n x y := by
  induction n generalizing xs with
  | zero => simp [times, Rounds]
  | succ n ih =>
    rw [times, ih]
    constructor
    · rintro ⟨z, hz, hn⟩
      obtain ⟨x, hx, hxz⟩ := (hf xs z).1 hz
      exact ⟨x, hx, z, hxz, hn⟩
    · rintro ⟨x, hx, z, hxz, hn⟩
      exact ⟨z, (hf xs z).2 ⟨x, hx, hxz⟩, hn⟩

/-- The search finds only places that rounds lead to. -/
theorem exists_rounds_of_mem_closure (hf : ∀ xs y, y ∈ f xs ↔ ∃ x ∈ xs, r x y) {n : Nat}
    {xs new : List Place} (hnew : new ⊆ xs) {y : Place} (hy : y ∈ closure f n xs new) :
    ∃ x ∈ xs, ∃ k, k ≤ n ∧ Rounds r k x y := by
  induction n generalizing xs new with
  | zero => exact ⟨y, hy, 0, Nat.le_refl _, rfl⟩
  | succ n ih =>
    rw [closure] at hy
    split at hy
    · exact ⟨y, hy, 0, Nat.zero_le _, rfl⟩
    · obtain ⟨x, hx, k, hk, hxy⟩ := ih (List.subset_append_right _ _) hy
      rcases List.mem_append.1 hx with hx | hx
      · exact ⟨x, hx, k, by omega, hxy⟩
      · obtain ⟨hx, -⟩ := List.mem_filter.1 hx
        obtain ⟨w, hw, hwx⟩ := (hf new x).1 hx
        exact ⟨w, hnew hw, k + 1, by omega, x, hwx, hxy⟩

/-- The search finds all places that rounds lead to, as long as nothing but the new places can lead
out of those that are there. -/
theorem mem_closure_of_rounds (hf : ∀ xs y, y ∈ f xs ↔ ∃ x ∈ xs, r x y) {n : Nat}
    {xs new : List Place} (hclosed : ∀ x ∈ xs, x ∉ new → ∀ y, r x y → y ∈ xs) {x y : Place}
    (hx : x ∈ xs) {k : Nat} (hk : k ≤ n) (hxy : Rounds r k x y) : y ∈ closure f n xs new := by
  induction n generalizing xs new x k with
  | zero =>
    obtain rfl : k = 0 := by omega
    cases hxy
    exact hx
  | succ n ih =>
    have hstep : ∀ x ∈ xs, ∀ y, r x y →
        y ∈ xs ++ (f new).filter fun x => !xs.contains x := by
      intro x hx y hxy
      by_cases hy : y ∈ xs
      · exact List.mem_append_left _ hy
      · have hxnew : x ∈ new :=
          Classical.byContradiction fun hxnew => hy (hclosed x hx hxnew y hxy)
        refine List.mem_append_right _ (List.mem_filter.2 ⟨(hf new y).2 ⟨x, hxnew, hxy⟩, ?_⟩)
        simpa using hy
    rw [closure]
    split
    · next hfound =>
      -- No place is new, so no round leads out of those that are there.
      rw [hfound, List.append_nil] at hstep
      clear hk
      induction k generalizing x with
      | zero =>
        cases hxy
        exact hx
      | succ k ihk =>
        obtain ⟨z, hz, hzy⟩ := hxy
        exact ihk (hstep x hx z hz) hzy
    · have hclosed' : ∀ x ∈ xs ++ (f new).filter (fun x => !xs.contains x),
          x ∉ (f new).filter (fun x => !xs.contains x) → ∀ y, r x y →
            y ∈ xs ++ (f new).filter fun x => !xs.contains x := by
        intro x hx hfound
        rcases List.mem_append.1 hx with hx | hx
        · exact hstep x hx
        · exact absurd hx hfound
      cases k with
      | zero => exact ih hclosed' (List.mem_append_left _ hx) (Nat.zero_le n) hxy
      | succ k =>
        obtain ⟨z, hz, hzy⟩ := hxy
        exact ih hclosed' (hstep x hx z hz) (Nat.le_of_succ_le_succ hk) hzy

/-- Enough rounds are run for each of the places. -/
theorem length_lt_rounds {xs : List Place} {x : Place} (hx : x ∈ xs) :
    x.after.length < rounds xs := by
  have hmax (l : List Nat) (a : Nat) : a ≤ l.foldl max a ∧ ∀ b ∈ l, b ≤ l.foldl max a := by
    induction l generalizing a with
    | nil => simp
    | cons c l ih =>
      obtain ⟨hle, hall⟩ := ih (max a c)
      refine ⟨by rw [List.foldl_cons]; omega, ?_⟩
      intro b hb
      rw [List.foldl_cons]
      rcases List.mem_cons.1 hb with rfl | hb
      · omega
      · exact hall b hb
  have hle := (hmax (xs.map fun x => x.after.length) 0).2 _ (List.mem_map_of_mem hx)
  rw [rounds]
  omega

/-- The places that a repetition leads to from some places, given those that one round leads to. -/
theorem mem_closure_iff (hf : ∀ xs y, y ∈ f xs ↔ ∃ x ∈ xs, r x y)
    (hr : ∀ x y, r x y → x.Reaches y) (bound : Option Nat) (xs : List Place) (y : Place) :
    y ∈ closure f (match bound with
        | some m => min m (rounds xs)
        | none => rounds xs) xs xs ↔
      ∃ x ∈ xs, ∃ n, (∀ m, bound = some m → n ≤ m) ∧ Rounds r n x y := by
  constructor
  · intro hy
    obtain ⟨x, hx, n, hn, hxy⟩ := exists_rounds_of_mem_closure hf (List.Subset.refl xs) hy
    refine ⟨x, hx, n, ?_, hxy⟩
    rintro m rfl
    exact Nat.le_trans hn (Nat.min_le_left _ _)
  · rintro ⟨x, hx, n, hn, hxy⟩
    obtain ⟨k, hkn, hklen, hxy⟩ := Place.exists_rounds_le hr hxy
    have hlt := length_lt_rounds hx
    refine mem_closure_of_rounds hf (fun x hx hnew => absurd hx hnew) hx (k := k) ?_ hxy
    cases bound with
    | none => exact Nat.le_of_lt (Nat.lt_of_le_of_lt hklen hlt)
    | some m =>
      have := hn m rfl
      exact Nat.le_min.2 ⟨by omega, by omega⟩

end

/-! ## Running a pattern -/

/-- The places that running a pattern finds are those where a match may end that begins at one of
the given places. -/
theorem mem_run (p : Pattern) (xs : List Place) (y : Place) :
    y ∈ p.run xs ↔ ∃ x ∈ xs, p.Matches x y := by
  induction p generalizing xs y with
  | empty => simp [run, Matches]
  | set s => exact List.mem_filterMap
  | assertion a =>
    rw [run, List.mem_filter]
    constructor
    · rintro ⟨hy, ha⟩
      exact ⟨y, hy, ha, rfl⟩
    · rintro ⟨x, hx, ha, rfl⟩
      exact ⟨hx, ha⟩
  | concat p q ihp ihq =>
    rw [run, ihq]
    constructor
    · rintro ⟨z, hz, hzy⟩
      obtain ⟨x, hx, hxz⟩ := (ihp xs z).1 hz
      exact ⟨x, hx, z, hxz, hzy⟩
    · rintro ⟨x, hx, z, hxz, hzy⟩
      exact ⟨z, (ihp xs z).2 ⟨x, hx, hxz⟩, hzy⟩
  | alternation p q ihp ihq =>
    have hor : y ∈ (alternation p q).run xs ↔ y ∈ p.run xs ∨ y ∈ q.run xs := by
      simp only [run, List.mem_append, List.mem_filter, Bool.not_eq_true', List.contains_eq_mem,
        decide_eq_false_iff_not]
      by_cases hy : y ∈ p.run xs <;> simp [hy]
    rw [hor, ihp, ihq]
    constructor
    · rintro (⟨x, hx, h⟩ | ⟨x, hx, h⟩)
      · exact ⟨x, hx, .inl h⟩
      · exact ⟨x, hx, .inr h⟩
    · rintro ⟨x, hx, h | h⟩
      · exact .inl ⟨x, hx, h⟩
      · exact .inr ⟨x, hx, h⟩
  | repetition p least most ih =>
    have hbound := mem_closure_iff ih (fun _ _ => Matches.reaches) (most.map (· - least))
      (times p.run least xs) y
    have hrun : (repetition p least most).run xs = closure p.run (match most.map (· - least) with
        | some m => min m (rounds (times p.run least xs))
        | none => rounds (times p.run least xs)) (times p.run least xs) (times p.run least xs) := by
      cases most <;> rfl
    rw [hrun, hbound]
    constructor
    · rintro ⟨z, hz, n, hn, hzy⟩
      obtain ⟨x, hx, hxz⟩ := (mem_times ih least xs z).1 hz
      refine ⟨x, hx, n, ?_, Rounds.add.2 ⟨z, hxz, hzy⟩⟩
      rintro m rfl
      exact hn _ rfl
    · rintro ⟨x, hx, n, hn, hxy⟩
      obtain ⟨z, hxz, hzy⟩ := Rounds.add.1 hxy
      refine ⟨z, (mem_times ih least xs z).2 ⟨x, hx, hxz⟩, n, ?_, hzy⟩
      intro m hm
      obtain ⟨m', rfl, rfl⟩ := Option.map_eq_some_iff.1 hm
      exact hn m' rfl
  | capture p ih => exact ih xs y

/-! ## Matching a whole text -/

/-- A pattern between the assertions that the text begins and that it ends. -/
def whole (p : Pattern) : Pattern :=
  concat (assertion .textStart) (concat p (assertion .textEnd))

/-- Some match of the pattern begins where a text begins and ends where it ends. -/
def MatchesWhole (p : Pattern) (t : Text) : Prop := p.Matches (.origin t) (.ending t)

theorem eq_origin_of_mem_all {t : Text} {x : Place} (hx : x ∈ Place.all t)
    (hbefore : x.before = []) : x = .origin t := by
  have honward (before t : Text) (hx : x ∈ Place.onward before t) :
      x = ⟨before, t⟩ ∨ before.length < x.before.length := by
    induction t generalizing before with
    | nil => exact .inl (List.mem_singleton.1 hx)
    | cons c t ih =>
      rcases List.mem_cons.1 hx with rfl | hx
      · exact .inl rfl
      · rcases ih (c :: before) hx with rfl | hlt
        · exact .inr (by simp)
        · exact .inr (Nat.lt_of_succ_lt hlt)
  rcases honward [] t hx with rfl | hlt
  · rfl
  · rw [hbefore] at hlt
    exact absurd hlt (Nat.lt_irrefl _)

theorem origin_mem_all (t : Text) : Place.origin t ∈ Place.all t := by
  cases t <;> exact List.mem_cons_self

/-- Between the two assertions a pattern matches some part of a text if and only if it matches the
whole of it. -/
theorem isMatch_whole (p : Pattern) (t : Text) : p.whole.isMatch t = true ↔ p.MatchesWhole t := by
  have hmatch : p.whole.isMatch t = true ↔ ∃ y, y ∈ p.whole.run (Place.all t) := by
    rw [isMatch, Bool.not_eq_true', List.isEmpty_eq_false_iff_exists_mem]
  rw [hmatch]
  constructor
  · rintro ⟨y, hy⟩
    obtain ⟨x, hx, w, ⟨hstart, rfl⟩, z, hp, hstop, rfl⟩ := (mem_run _ _ _).1 hy
    obtain rfl := eq_origin_of_mem_all hx (List.isEmpty_iff.1 hstart)
    obtain ⟨u, hu, hu'⟩ := hp.reaches
    have hafter : z.after = [] := List.isEmpty_iff.1 hstop
    have hz : z = .ending t := by
      rw [hafter, List.append_nil] at hu
      rcases z with ⟨before, after⟩
      dsimp only [Place.origin] at *
      rw [hu', hafter, hu, List.append_nil, Place.ending]
    rw [MatchesWhole, ← hz]
    exact hp
  · intro hp
    exact ⟨.ending t, (mem_run _ _ _).2 ⟨.origin t, origin_mem_all t, .origin t, ⟨rfl, rfl⟩,
      .ending t, hp, rfl, rfl⟩⟩

end Pattern

end ScriptStyle
