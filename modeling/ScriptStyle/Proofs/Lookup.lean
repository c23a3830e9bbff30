import ScriptStyle.Files.Tree

/-!
# Places in a directory tree

In a tree without links a path can be followed in the text alone: a name leads one step down and two
dots lead one step up. `Entry.at?_of_lookup` says that what is found by a path is what is found by
going down from the top along the names of its place. So two paths lead to one file if and only if
they have one place, however they are spelled.
-/

namespace ScriptStyle

namespace Path

/-! ## Segments and components -/

/-- A name that can be given to an entry. -/
structure IsName (n : Text) : Prop where
  ne_nil : n ≠ []
  ne_here : n ≠ ['.']
  ne_parent : n ≠ ['.', '.']
  separator_not_mem : separator ∉ n

instance (n : Text) : Decidable (IsName n) :=
  decidable_of_iff (n ≠ [] ∧ n ≠ ['.'] ∧ n ≠ ['.', '.'] ∧ separator ∉ n)
    ⟨fun ⟨h, h', h'', h'''⟩ => ⟨h, h', h'', h'''⟩, fun ⟨h, h', h'', h'''⟩ => ⟨h, h', h'', h'''⟩⟩

theorem segments_ne_nil (p : Text) : segments p ≠ [] := by
  cases p with
  | nil => simp [segments]
  | cons c p =>
    rw [segments]
    split
    · simp
    · split <;> simp

theorem segments_cons_of_ne {c : Char} (hc : c ≠ separator) (p : Text) :
    segments (c :: p) = (segments p).modifyHead (c :: ·) := by
  rw [segments, if_neg hc]
  cases hp : segments p with
  | nil => exact absurd hp (segments_ne_nil p)
  | cons s ss => rfl

theorem segments_append_separator (p q : Text) :
    segments (p ++ separator :: q) = segments p ++ segments q := by
  induction p with
  | nil => simp [segments]
  | cons c p ih =>
    by_cases hc : c = separator
    · rw [hc, List.cons_append, segments, if_pos rfl, ih, segments, if_pos rfl, List.cons_append]
    · rw [List.cons_append, segments_cons_of_ne hc, segments_cons_of_ne hc, ih]
      cases hp : segments p with
      | nil => exact absurd hp (segments_ne_nil p)
      | cons s ss => rfl

theorem segments_of_not_mem {p : Text} (hp : separator ∉ p) : segments p = [p] := by
  induction p with
  | nil => rfl
  | cons c p ih =>
    obtain ⟨hc, hp⟩ := List.ne_and_not_mem_of_not_mem_cons hp
    rw [segments_cons_of_ne hc.symm, ih hp, List.modifyHead_cons]

theorem component?_of_isName {n : Text} (hn : IsName n) : component? n = some (.name n) := by
  have hblank : ¬ (decide (n = []) || decide (n = ['.'])) = true := by
    simp [hn.ne_nil, hn.ne_here]
  rw [component?, if_neg hblank, if_neg hn.ne_parent]

/-- What a path begins with. -/
def start (p : Text) : List Component :=
  if p.head? = some separator then [.root]
  else if (segments p).head? = some ['.'] then [.here]
  else []

theorem components_eq {p : Text} (hp : p ≠ []) :
    components p = start p ++ (segments p).filterMap component? := by
  cases p with
  | nil => exact absurd rfl hp
  | cons c p =>
    rw [components, start, List.head?_cons]
    by_cases hc : c = separator
    · rw [if_pos hc, if_pos (congrArg some hc)]
      rfl
    · rw [if_neg hc, if_neg (mt Option.some.inj hc)]
      split <;> rfl

/-! ## The path of something in a directory -/

variable {d n : Text}

theorem join_ne_nil (hd : d ≠ []) : join d n ≠ [] := by
  rw [join, if_neg hd]
  split <;> simp [hd]

theorem head?_join (hd : d ≠ []) : (join d n).head? = d.head? := by
  cases d with
  | nil => exact absurd rfl hd
  | cons c d =>
    rw [join, if_neg hd]
    split <;> rfl

/-- The name is the last segment. In front of it stand those of the directory, but for an empty one
at the end. -/
theorem exists_segments_join (hd : d ≠ []) (hn : IsName n) :
    ∃ r, r ≠ [] ∧ segments (join d n) = r ++ [n] ∧ (segments d = r ∨ segments d = r ++ [[]]) := by
  have hname := segments_of_not_mem hn.separator_not_mem
  rw [join, if_neg hd]
  by_cases hlast : d.getLast? = some separator
  · obtain ⟨d', rfl⟩ := List.getLast?_eq_some_iff.1 hlast
    refine ⟨segments d', segments_ne_nil d', ?_, .inr ?_⟩
    · rw [if_pos hlast, List.append_assoc, List.singleton_append, segments_append_separator, hname]
    · rw [segments_append_separator]
      rfl
  · refine ⟨segments d, segments_ne_nil d, ?_, .inl rfl⟩
    rw [if_neg hlast, segments_append_separator, hname]

theorem components_join (hd : d ≠ []) (hn : IsName n) :
    components (join d n) = components d ++ [.name n] := by
  obtain ⟨r, hr, hjoin, hsegments⟩ := exists_segments_join hd hn
  have hhead : (segments (join d n)).head? = (segments d).head? := by
    obtain ⟨s, ss, rfl⟩ := List.exists_cons_of_ne_nil hr
    rw [hjoin]
    rcases hsegments with h | h <;> rw [h] <;> rfl
  have hstart : start (join d n) = start d := by
    rw [start, start, head?_join hd, hhead]
  have hinner : r.filterMap component? = (segments d).filterMap component? := by
    rcases hsegments with h | h
    · rw [h]
    · rw [h, List.filterMap_append]
      exact (List.append_nil _).symm
  rw [components_eq (join_ne_nil hd), components_eq hd, hstart, hjoin, List.filterMap_append,
    hinner, List.append_assoc]
  congr 2
  simp [component?_of_isName hn]

/-- The path of what is found in a directory by going down some names. -/
def joinAll (d : Text) (ns : List Text) : Text := ns.foldl join d

theorem components_joinAll (hd : d ≠ []) {ns : List Text} (hns : ∀ n ∈ ns, IsName n) :
    components (joinAll d ns) = components d ++ ns.map .name := by
  induction ns generalizing d with
  | nil => exact (List.append_nil _).symm
  | cons n ns ih =>
    obtain ⟨hn, hns⟩ := List.forall_mem_cons.1 hns
    rw [joinAll, List.foldl_cons]
    exact (ih (join_ne_nil hd) hns).trans (by rw [components_join hd hn]; simp)

/-! ## Places -/

end Path

/-- The names that lead from the top to where a component leads from where some names lead. -/
def Component.step (ns : List Text) : Component → List Text
  | root => []
  | here => ns
  | parent => ns.dropLast
  | name n => ns ++ [n]

namespace Path

/-- The names that lead from the top to where a path leads, if the names `home` lead to the working
directory. -/
def place (home : List Text) (p : Text) : List Text := (components p).foldl Component.step home

theorem foldl_step_names (ns ks : List Text) :
    (ks.map Component.name).foldl Component.step ns = ns ++ ks := by
  induction ks generalizing ns with
  | nil => exact (List.append_nil ns).symm
  | cons k ks ih => rw [List.map_cons, List.foldl_cons, ih, Component.step, List.append_assoc]; rfl

theorem place_joinAll {home : List Text} {d : Text} (hd : d ≠ []) {ns : List Text}
    (hns : ∀ n ∈ ns, IsName n) : place home (joinAll d ns) = place home d ++ ns := by
  rw [place, components_joinAll hd hns, List.foldl_append, foldl_step_names]
  rfl

theorem filterMap_component?_of_isName {ns : List Text} (hns : ∀ n ∈ ns, IsName n) :
    ns.filterMap component? = ns.map .name := by
  induction ns with
  | nil => rfl
  | cons n ns ih =>
    obtain ⟨hn, hns⟩ := List.forall_mem_cons.1 hns
    rw [List.filterMap_cons_some (component?_of_isName hn), ih hns, List.map_cons]

/-- The place of a path is that of its segments on the way from the top. -/
theorem place_eq {home : List Text} (hhome : ∀ n ∈ home, IsName n) {p : Text} (hp : p ≠ []) :
    place home p = ((Entry.route home p).filterMap component?).foldl Component.step [] := by
  rw [place, components_eq hp, start, Entry.route]
  split
  · rfl
  · rw [List.filterMap_append, filterMap_component?_of_isName hhome, List.foldl_append,
      List.foldl_append, foldl_step_names, List.nil_append]
    split <;> rfl

end Path

namespace Entry

open Path (IsName)

/-! ## Trees without links -/

/-- What is found by going down some names. -/
def at? (e : Entry) : List Text → Option Entry
  | [] => some e
  | n :: ns => (e.get? n).bind (·.at? ns)

/-- A file, or a directory of things of this kind that all have names of their own. -/
inductive IsPlain : Entry → Prop
  | file (content : Option Text) : IsPlain (file content)
  | directory {es : List (Text × Entry)} : (es.map (·.1)).Nodup → (∀ x ∈ es, IsName x.1) →
    (∀ x ∈ es, IsPlain x.2) → IsPlain (directory es)

variable {top e f : Entry} {n : Text} {ns : List Text}

theorem mem_entries_of_get? (h : e.get? n = some f) : (n, f) ∈ e.entries := by
  obtain ⟨x, hx, rfl⟩ := Option.map_eq_some_iff.1 h
  obtain rfl : x.1 = n := by simpa using List.find?_some hx
  exact List.mem_of_find?_eq_some hx

theorem IsPlain.get?_eq_some_iff (he : e.IsPlain) : e.get? n = some f ↔ (n, f) ∈ e.entries := by
  refine ⟨mem_entries_of_get?, ?_⟩
  intro hmem
  cases he with
  | file content => cases hmem
  | @directory es hnodup hnames hes =>
    obtain ⟨before, after, hsplit⟩ := List.append_of_mem hmem
    have hsplit : es = before ++ (n, f) :: after := hsplit
    have hbefore : ∀ x ∈ before, ¬ (decide (x.1 = n)) = true := by
      intro x hx hxn
      rw [hsplit, List.map_append, List.map_cons, List.nodup_append] at hnodup
      exact hnodup.2.2 x.1 (List.mem_map_of_mem hx) n (List.mem_cons_self ..)
        (of_decide_eq_true hxn)
    have hfind : es.find? (fun x => decide (x.1 = n)) = some (n, f) := by
      rw [hsplit, List.find?_append, List.find?_eq_none.2 hbefore, Option.none_or]
      simp
    show (es.find? _).map _ = _
    rw [hfind]
    rfl

theorem IsPlain.isName (he : e.IsPlain) (h : e.get? n = some f) : IsName n := by
  have hmem := mem_entries_of_get? h
  cases he with
  | file content => cases hmem
  | directory hnodup hnames hes => exact hnames _ hmem

theorem IsPlain.get? (he : e.IsPlain) (h : e.get? n = some f) : f.IsPlain := by
  have hmem := mem_entries_of_get? h
  cases he with
  | file content => cases hmem
  | directory hnodup hnames hes => exact hes _ hmem

theorem IsPlain.at? (he : e.IsPlain) (h : e.at? ns = some f) : f.IsPlain := by
  induction ns generalizing e with
  | nil => exact Option.some.inj h ▸ he
  | cons n ns ih =>
    obtain ⟨g, hg, hf⟩ := Option.bind_eq_some_iff.1 h
    exact ih (he.get? hg) hf

theorem at?_concat (h : e.at? ns = some f) (n : Text) : e.at? (ns ++ [n]) = f.get? n := by
  induction ns generalizing e with
  | nil =>
    obtain rfl := Option.some.inj h
    show (e.get? n).bind some = e.get? n
    cases e.get? n <;> rfl
  | cons k ns ih =>
    obtain ⟨g, hg, hf⟩ := Option.bind_eq_some_iff.1 h
    show (e.get? k).bind (·.at? (ns ++ [n])) = _
    rw [hg, Option.bind_some, ih hf]

/-! ## How deep a tree is -/

theorem depth_le_depthAll {x : Text × Entry} {es : List (Text × Entry)} (hx : x ∈ es) :
    x.2.depth ≤ depthAll es := by
  induction es with
  | nil => cases hx
  | cons y es ih =>
    obtain ⟨m, g⟩ := y
    rw [depthAll]
    rcases List.mem_cons.1 hx with rfl | hx
    · exact Nat.le_max_left ..
    · exact Nat.le_trans (ih hx) (Nat.le_max_right ..)

theorem depth_lt_of_get? (h : e.get? n = some f) : f.depth < e.depth := by
  have hmem := mem_entries_of_get? h
  cases e with
  | directory es =>
    have hle : f.depth ≤ depthAll es := depth_le_depthAll hmem
    rw [depth]
    omega
  | file content => cases hmem
  | link target => cases hmem

theorem depth_le_of_at? (h : e.at? ns = some f) : f.depth ≤ e.depth := by
  induction ns generalizing e with
  | nil =>
    obtain rfl := Option.some.inj h
    exact Nat.le_refl _
  | cons n ns ih =>
    obtain ⟨g, hg, hf⟩ := Option.bind_eq_some_iff.1 h
    have hlt := depth_lt_of_get? hg
    have hle := ih hf
    omega

/-! ## Following a path -/

/-- The directories on the way behind one more segment, where nothing is a link. -/
def enter (trail : List Entry) (s : Text) : Option (List Entry) :=
  match trail with
  | directory es :: up =>
    if s = [] || s = ['.'] then some trail
    else if s = ['.', '.'] then some (if up = [] then trail else up)
    else ((directory es).get? s).map (· :: trail)
  | _ => none

theorem foldlM_enter_singleton (trail : List Entry) (s : Text) :
    [s].foldlM enter trail = enter trail s := by
  rw [List.foldlM_cons]
  exact Option.bind_fun_some _

theorem eq_of_enter_nil {trail trail' : List Entry} (h : enter trail [] = some trail') :
    trail = trail' := by
  rw [enter.eq_def] at h
  split at h
  · exact Option.some.inj h
  · cases h

theorem enter_of_get? (hn : IsName n) (h : e.get? n = some f) (up : List Entry) :
    enter (e :: up) n = some (f :: e :: up) := by
  have hmem := mem_entries_of_get? h
  cases e with
  | file content => cases hmem
  | link target => cases hmem
  | directory es => simp [enter, hn.ne_nil, hn.ne_here, hn.ne_parent, h]

/-- The entries on the way down along some names, the last one first. -/
inductive IsTrail (top : Entry) : List Text → List Entry → Prop
  | top : IsTrail top [] [top]
  | down {ns : List Text} {e : Entry} {up : List Entry} {n : Text} {f : Entry} :
    IsTrail top ns (e :: up) → e.get? n = some f → IsTrail top (ns ++ [n]) (f :: e :: up)

theorem IsTrail.at? {up : List Entry} (h : IsTrail top ns (e :: up)) : top.at? ns = some e := by
  generalize htrail : e :: up = trail at h
  induction h generalizing e up with
  | top =>
    obtain ⟨rfl, -⟩ := List.cons.inj htrail
    rfl
  | @down ns g up' n f hg hget ih =>
    obtain ⟨rfl, -⟩ := List.cons.inj htrail
    rw [at?_concat (ih rfl), hget]

/-- One segment further the names are those that its component leads to. -/
theorem IsTrail.enter {trail trail' : List Entry} {s : Text} (h : IsTrail top ns trail)
    (henter : enter trail s = some trail') :
    IsTrail top ([s].filterMap Path.component? |>.foldl Component.step ns) trail' := by
  rw [Entry.enter.eq_def] at henter
  split at henter
  next es up =>
    have hcomponent : [s].filterMap Path.component? = (Path.component? s).toList := by
      cases h : Path.component? s <;> simp [h]
    rw [hcomponent, Path.component?]
    split at henter
    next hblank =>
      obtain rfl := Option.some.inj henter
      rw [if_pos hblank]
      exact h
    next hblank =>
      rw [if_neg hblank]
      split at henter
      next hparent =>
        rw [if_pos hparent]
        cases h with
        | top =>
          obtain rfl := Option.some.inj henter
          exact .top
        | @down ns e up n f h hget =>
          obtain rfl := Option.some.inj henter
          rw [if_neg (List.cons_ne_nil e up)]
          show IsTrail top (ns ++ [n]).dropLast (e :: up)
          rwa [List.dropLast_concat]
      next hparent =>
        rw [if_neg hparent]
        obtain ⟨f, hf, rfl⟩ := Option.map_eq_some_iff.1 henter
        exact .down h hf
  next => cases henter

theorem IsTrail.foldlM {trail trail' : List Entry} {segments : List Text}
    (h : IsTrail top ns trail) (hfold : segments.foldlM Entry.enter trail = some trail') :
    IsTrail top ((segments.filterMap Path.component?).foldl Component.step ns) trail' := by
  induction segments generalizing ns trail with
  | nil =>
    obtain rfl := Option.some.inj hfold
    exact h
  | cons s ss ih =>
    rw [List.foldlM_cons] at hfold
    obtain ⟨next, henter, hfold⟩ := Option.bind_eq_some_iff.1 hfold
    have hcons : (s :: ss).filterMap Path.component? =
        [s].filterMap Path.component? ++ ss.filterMap Path.component? := by
      rw [← List.filterMap_append, List.singleton_append]
    rw [hcons, List.foldl_append]
    exact ih (h.enter henter) hfold

theorem IsTrail.isPlain {trail : List Entry} (h : IsTrail top ns trail) (htop : top.IsPlain) :
    ∀ e ∈ trail, e.IsPlain := by
  induction h with
  | top => exact List.forall_mem_singleton.2 htop
  | down h hget ih =>
    have he := ih _ (List.mem_cons_self ..)
    exact List.forall_mem_cons.2 ⟨he.get? hget, ih⟩

/-! ## Resolving a path -/

/-- Where nothing is a link, resolving a segment is entering it. -/
theorem resolve_cons {trail : List Entry} (htrail : ∀ e ∈ trail, e.IsPlain) (fuel links : Nat)
    (s : Text) (ss : List Text) : (resolve (fuel + 1) trail links (s :: ss)).toOption =
      (enter trail s).bind fun next => (resolve fuel next links ss).toOption := by
  cases trail with
  | nil => rfl
  | cons e up =>
    have he := htrail e (List.mem_cons_self ..)
    cases e with
    | file content => rfl
    | link target => cases he
    | directory es =>
      rw [resolve, enter]
      by_cases hblank : (decide (s = []) || decide (s = ['.'])) = true
      · simp only [if_pos hblank, Option.bind_some]
      by_cases hparent : s = ['.', '.']
      · have hup : (if up = [] then [directory es] else up) =
            if up = [] then directory es :: up else up := by
          split
          next hnil => rw [hnil]
          next => rfl
        simp only [if_neg hblank, if_pos hparent, hup, Option.bind_some]
      · simp only [if_neg hblank, if_neg hparent]
        cases hget : (directory es).get? s with
        | none => rfl
        | some f =>
          cases f with
          | file content => rfl
          | directory fs => rfl
          | link target => cases he.get? hget

/-- Resolving some segments is entering them one after the other. -/
theorem IsTrail.resolve_eq {segments : List Text} {trail : List Entry} (h : IsTrail top ns trail)
    (htop : top.IsPlain) {fuel : Nat} (hfuel : segments.length < fuel) (links : Nat) :
    (resolve fuel trail links segments).toOption =
      (segments.foldlM Entry.enter trail).bind List.head? := by
  obtain ⟨k, rfl⟩ : ∃ k, fuel = k + 1 := ⟨fuel - 1, by omega⟩
  induction segments generalizing k ns trail with
  | nil => cases h <;> rfl
  | cons s ss ih =>
    rw [List.length_cons] at hfuel
    rw [resolve_cons (h.isPlain htop), List.foldlM_cons]
    cases henter : Entry.enter trail s with
    | none => rfl
    | some next =>
      obtain ⟨k, rfl⟩ : ∃ j, k = j + 1 := ⟨k - 1, by omega⟩
      exact ih (h.enter henter) k (by omega)

variable {home : List Text} {p : Text}

theorem lookup_eq_ok_iff (htop : top.IsPlain) :
    top.lookup home p = .ok e ↔
      p ≠ [] ∧ ∃ up, (route home p).foldlM enter [top] = some (e :: up) := by
  rw [lookup]
  by_cases hp : p = []
  · simp [hp]
  · have hfuel : (route home p).length < linkLimit * 4096 + (route home p).length + 1 := by omega
    have htrail : IsTrail top [] [top] := .top
    have heq := htrail.resolve_eq htop hfuel linkLimit
    have hok (r : Except ReadError Entry) : r = .ok e ↔ r.toOption = some e := by
      cases r <;> simp [Except.toOption]
    simp only [if_neg hp, hok, heq]
    cases (route home p).foldlM enter [top] with
    | none => simp
    | some trail => cases trail <;> simp [hp]

/-! ## The place of what is found -/

/-- What a path leads to is found by going down the names of its place. -/
theorem at?_of_lookup (htop : top.IsPlain) (hhome : ∀ n ∈ home, IsName n)
    (h : top.lookup home p = .ok e) : top.at? (Path.place home p) = some e := by
  obtain ⟨hp, up, hfold⟩ := (lookup_eq_ok_iff htop).1 h
  rw [Path.place_eq hhome hp]
  exact (IsTrail.top.foldlM hfold).at?

theorem lookup_join (htop : top.IsPlain) (hn : IsName n) (h : top.lookup home p = .ok e)
    (hget : e.get? n = some f) : top.lookup home (Path.join p n) = .ok f := by
  obtain ⟨hp, up, hfold⟩ := (lookup_eq_ok_iff htop).1 h
  obtain ⟨r, -, hjoin, hsegments⟩ := Path.exists_segments_join hp hn
  have hroute : ∃ r', route home (Path.join p n) = r' ++ [n] ∧
      (route home p = r' ∨ route home p = r' ++ [[]]) := by
    rw [route, route, Path.head?_join hp, hjoin]
    refine ⟨_ ++ r, (List.append_assoc ..).symm, ?_⟩
    rcases hsegments with h | h
    · exact .inl (by rw [h])
    · exact .inr (by rw [h, List.append_assoc])
  obtain ⟨r', hroute, hsame⟩ := hroute
  -- An empty segment at the end leads nowhere else.
  have hfold' : r'.foldlM enter [top] = some (e :: up) := by
    rcases hsame with h | h
    · rwa [← h]
    · rw [h, List.foldlM_append] at hfold
      obtain ⟨trail, htrail, hlast⟩ := Option.bind_eq_some_iff.1 hfold
      rw [foldlM_enter_singleton] at hlast
      rw [htrail, eq_of_enter_nil hlast]
  refine (lookup_eq_ok_iff htop).2 ⟨Path.join_ne_nil hp, e :: up, ?_⟩
  rw [hroute, List.foldlM_append, hfold']
  exact (foldlM_enter_singleton ..).trans (enter_of_get? hn hget up)

/-- What is found by going down some names from what a path leads to has a path of its own. -/
theorem lookup_joinAll (htop : top.IsPlain) (he : e.IsPlain) (h : top.lookup home p = .ok e)
    (hat : e.at? ns = some f) : top.lookup home (Path.joinAll p ns) = .ok f := by
  induction ns generalizing e p with
  | nil =>
    obtain rfl := Option.some.inj hat
    exact h
  | cons n ns ih =>
    obtain ⟨g, hg, hf⟩ := Option.bind_eq_some_iff.1 hat
    exact ih (he.get? hg) (lookup_join htop (he.isName hg) h hg) hf

end Entry

end ScriptStyle
