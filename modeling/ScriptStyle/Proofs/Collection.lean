import Mathlib.Data.List.Pairwise
import ScriptStyle.Proofs.Lookup
import ScriptStyle.Proofs.Preparation

/-!
# Which files are collected

`mem_gather` says what the arguments of a run lead to in a tree without links: an argument leads to
the file that it names, and from a directory to every script below it that stands in no directory
that is left out.

The files of a run are kept apart by their components and not by their places. So a file is
collected once for each way in which the arguments spell it: never twice if all arguments begin in
the same way and go on with names, but twice if `.` is given together with a name in the working
directory.
-/

namespace ScriptStyle

namespace Entry

/-- A file is found below an entry by going down some names, and no directory on the way is left
out. -/
structure Finds (e : Entry) (ns : List Text) : Prop where
  file : ∃ c, e.at? ns = some (.file c)
  below : ns ≠ []
  searched : ∀ n ∈ ns.dropLast, Files.isSkipped n = false

variable {e : Entry} {n : Text} {ns : List Text}

theorem finds_singleton : e.Finds [n] ↔ ∃ c, e.get? n = some (.file c) := by
  have hat : e.at? [n] = e.get? n := by
    show (e.get? n).bind some = e.get? n
    cases e.get? n <;> rfl
  constructor
  · rintro ⟨hfile, -, -⟩
    rwa [hat] at hfile
  · intro h
    refine ⟨by rwa [hat], List.cons_ne_nil n [], ?_⟩
    rintro k ⟨⟩

theorem finds_cons (hns : ns ≠ []) :
    e.Finds (n :: ns) ↔ Files.isSkipped n = false ∧ ∃ f, e.get? n = some f ∧ f.Finds ns := by
  have hlast : (n :: ns).dropLast = n :: ns.dropLast := List.dropLast_cons_of_ne_nil hns
  constructor
  · rintro ⟨⟨c, hfile⟩, -, hsearched⟩
    rw [hlast] at hsearched
    obtain ⟨hn, hsearched⟩ := List.forall_mem_cons.1 hsearched
    obtain ⟨f, hf, hfile⟩ := Option.bind_eq_some_iff.1 hfile
    exact ⟨hn, f, hf, ⟨c, hfile⟩, hns, hsearched⟩
  · rintro ⟨hn, f, hf, ⟨c, hfile⟩, -, hsearched⟩
    refine ⟨⟨c, Option.bind_eq_some_iff.2 ⟨f, hf, hfile⟩⟩, List.cons_ne_nil n ns, ?_⟩
    rw [hlast]
    exact List.forall_mem_cons.2 ⟨hn, hsearched⟩

theorem Finds.exists_get? (h : e.Finds (n :: ns)) : ∃ f, e.get? n = some f := by
  obtain ⟨c, hfile⟩ := h.file
  obtain ⟨f, hf, -⟩ := Option.bind_eq_some_iff.1 hfile
  exact ⟨f, hf⟩

theorem Finds.kind_eq (h : e.Finds ns) : e.kind = .directory := by
  obtain ⟨n, ns, rfl⟩ := List.exists_cons_of_ne_nil h.below
  obtain ⟨f, hf⟩ := h.exists_get?
  have hmem := mem_entries_of_get? hf
  cases e with
  | directory es => rfl
  | file content => cases hmem
  | link target => cases hmem

theorem IsPlain.isName_of_at? {f : Entry} (he : e.IsPlain) (h : e.at? ns = some f) :
    ∀ n ∈ ns, Path.IsName n := by
  induction ns generalizing e with
  | nil => exact fun n hn => absurd hn List.not_mem_nil
  | cons k ns ih =>
    obtain ⟨g, hg, hf⟩ := Option.bind_eq_some_iff.1 h
    exact List.forall_mem_cons.2 ⟨he.isName hg, ih (he.get? hg) hf⟩

end Entry

namespace Files

open Entry (Finds)
open Path (IsName joinAll)

variable {top e : Entry} {home : List Text} {dir f : Text} {paths files : List Text}

/-! ## Scripts below a directory -/

theorem entries_ofTop (h : top.lookup home dir = .ok e) :
    ((Disk.ofTop top home).entries dir).run = e.entries.map fun x => (x.1, x.2.kind) := by
  simp only [Disk.ofTop, h]
  rfl

/-- What a search finds in one of the entries of a directory. -/
def scriptsIn (disk : Disk Id) (depth : Nat) (dir : Text) (x : Text × EntryKind) : List Text :=
  match x.2 with
  | .file => if Path.isScript (Path.join dir x.1) then [Path.join dir x.1] else []
  | .directory => if isSkipped x.1 then [] else (scripts disk depth (Path.join dir x.1)).run
  | .other => []

theorem scripts_succ (disk : Disk Id) (depth : Nat) (dir : Text) :
    (scripts disk (depth + 1) dir).run =
      ((disk.entries dir).run).flatMap (scriptsIn disk depth dir) := by
  simp only [scripts, Id.run_bind, List.idRun_mapM, Id.run_pure, List.flatMap]
  rfl

/-- A search that goes as deep as the tree finds every script that is there. -/
theorem mem_scripts (htop : top.IsPlain) {depth : Nat} (hdir : top.lookup home dir = .ok e)
    (he : e.IsPlain) (hdepth : e.depth ≤ depth) :
    f ∈ (scripts (Disk.ofTop top home) depth dir).run ↔
      ∃ ns, e.Finds ns ∧ f = joinAll dir ns ∧ Path.isScript f := by
  induction depth generalizing dir e with
  | zero =>
    -- Nothing is below an entry that is no directory.
    have hnone : ¬ ∃ ns, e.Finds ns ∧ f = joinAll dir ns ∧ Path.isScript f := by
      rintro ⟨ns, hfinds, -⟩
      obtain ⟨n, ns, rfl⟩ := List.exists_cons_of_ne_nil hfinds.below
      obtain ⟨g, hg⟩ := hfinds.exists_get?
      have := Entry.depth_lt_of_get? hg
      omega
    exact iff_of_false List.not_mem_nil hnone
  | succ depth ih =>
    rw [scripts_succ, entries_ofTop hdir, List.mem_flatMap]
    constructor
    · rintro ⟨x, hx, hf⟩
      obtain ⟨⟨n, g⟩, hng, rfl⟩ := List.mem_map.1 hx
      have hget : e.get? n = some g := he.get?_eq_some_iff.2 hng
      cases g with
      | link target => cases he.get? hget
      | file content =>
        by_cases hscript : Path.isScript (Path.join dir n)
        · have hf : f ∈ [Path.join dir n] := by
            simpa only [scriptsIn, Entry.kind, if_pos hscript] using hf
          obtain rfl := List.mem_singleton.1 hf
          exact ⟨[n], Entry.finds_singleton.2 ⟨content, hget⟩, rfl, hscript⟩
        · simp [scriptsIn, Entry.kind, hscript] at hf
      | directory es =>
        by_cases hskip : isSkipped n
        · simp [scriptsIn, Entry.kind, hskip] at hf
        · have hf : f ∈ (scripts (Disk.ofTop top home) depth (Path.join dir n)).run := by
            simpa only [scriptsIn, Entry.kind, if_neg hskip] using hf
          have hlookup := Entry.lookup_join htop (he.isName hget) hdir hget
          have hlt := Entry.depth_lt_of_get? hget
          obtain ⟨ns, hfinds, hf, hscript⟩ := (ih hlookup (he.get? hget) (by omega)).1 hf
          refine ⟨n :: ns, ?_, hf, hscript⟩
          exact (Entry.finds_cons hfinds.below).2 ⟨by simpa using hskip, _, hget, hfinds⟩
    · rintro ⟨ns, hfinds, rfl, hscript⟩
      obtain ⟨n, ns, rfl⟩ := List.exists_cons_of_ne_nil hfinds.below
      obtain ⟨g, hget⟩ := hfinds.exists_get?
      have hmem : (n, g.kind) ∈ e.entries.map fun x => (x.1, x.2.kind) :=
        List.mem_map.2 ⟨(n, g), Entry.mem_entries_of_get? hget, rfl⟩
      refine ⟨_, hmem, ?_⟩
      cases ns with
      | nil =>
        obtain ⟨c, hfile⟩ := Entry.finds_singleton.1 hfinds
        obtain rfl := Option.some.inj (hget.symm.trans hfile)
        have hscript : Path.isScript (Path.join dir n) := hscript
        simp only [scriptsIn, Entry.kind, if_pos hscript]
        exact List.mem_singleton_self _
      | cons k ns =>
        obtain ⟨hskip, g', hget', hbelow⟩ := (Entry.finds_cons (List.cons_ne_nil k ns)).1 hfinds
        obtain rfl := Option.some.inj (hget.symm.trans hget')
        have hlookup := Entry.lookup_join htop (he.isName hget) hdir hget
        have hlt := Entry.depth_lt_of_get? hget
        have hfound := (ih hlookup (he.get? hget) (by omega)).2 ⟨_, hbelow, rfl, hscript⟩
        simp only [scriptsIn, hbelow.kind_eq, hskip]
        exact hfound

/-! ## What arguments lead to -/

theorem kind_ofTop (h : top.lookup home dir = .ok e) :
    ((Disk.ofTop top home).kind dir).run = some e.kind := by
  simp only [Disk.ofTop, h]
  rfl

theorem exists_lookup_of_kind {kind : EntryKind}
    (h : ((Disk.ofTop top home).kind dir).run = some kind) :
    ∃ e, top.lookup home dir = .ok e ∧ e.kind = kind := by
  cases hlookup : top.lookup home dir with
  | ok e =>
    rw [kind_ofTop hlookup] at h
    exact ⟨e, rfl, Option.some.inj h⟩
  | error _ =>
    simp only [Disk.ofTop, hlookup] at h
    cases h

/-- The names that lead from an argument to a file that is linted because of it: none from a file,
and from a directory those that lead down to a script. -/
def Leads (top : Entry) (home : List Text) (p : Text) (ns : List Text) : Prop :=
  ∃ e, top.lookup home p = .ok e ∧
    (e.kind = .file ∧ ns = [] ∨ e.Finds ns ∧ Path.isScript (joinAll p ns))

theorem mem_named (htop : top.IsPlain) (hhome : ∀ n ∈ home, IsName n) {p : Text}
    (h : (named (Disk.ofTop top home) p).run = some files) :
    f ∈ files ↔ ∃ ns, Leads top home p ns ∧ f = joinAll p ns := by
  rw [named_eq] at h
  split at h
  next hkind =>
    obtain rfl := Option.some.inj h
    obtain ⟨e, he, hfile⟩ := exists_lookup_of_kind hkind
    rw [List.mem_singleton]
    constructor
    · rintro rfl
      exact ⟨[], ⟨e, he, .inl ⟨hfile, rfl⟩⟩, rfl⟩
    · rintro ⟨ns, ⟨e', he', hleads⟩, rfl⟩
      obtain rfl := Except.ok.inj (he.symm.trans he')
      rcases hleads with ⟨-, rfl⟩ | ⟨hfinds, -⟩
      · rfl
      · cases hfile.symm.trans hfinds.kind_eq
  next hkind =>
    obtain rfl := Option.some.inj h
    obtain ⟨e, he, hdirectory⟩ := exists_lookup_of_kind hkind
    have hat := Entry.at?_of_lookup htop hhome he
    have hdepth : e.depth ≤ (Disk.ofTop top home).depth := Entry.depth_le_of_at? hat
    rw [mem_scripts htop he (htop.at? hat) hdepth]
    refine exists_congr ?_
    intro ns
    constructor
    · rintro ⟨hfinds, rfl, hscript⟩
      exact ⟨⟨e, he, .inr ⟨hfinds, hscript⟩⟩, rfl⟩
    · rintro ⟨⟨e', he', hleads⟩, rfl⟩
      obtain rfl := Except.ok.inj (he.symm.trans he')
      rcases hleads with ⟨hfile, -⟩ | ⟨hfinds, hscript⟩
      · cases hdirectory.symm.trans hfile
      · exact ⟨hfinds, rfl, hscript⟩
  next => cases h

/-- What is gathered is what the arguments lead to. -/
theorem mem_gather (htop : top.IsPlain) (hhome : ∀ n ∈ home, IsName n)
    (h : (gather (Disk.ofTop top home) paths).run = .ok files) :
    f ∈ files ↔ ∃ p ∈ paths, ∃ ns, Leads top home p ns ∧ f = joinAll p ns := by
  induction paths generalizing files with
  | nil =>
    obtain rfl := Except.ok.inj h
    simp
  | cons p ps ih =>
    obtain ⟨here, rest, hhere, hrest, rfl⟩ := gather_cons_eq_ok.1 h
    rw [List.mem_append, List.exists_mem_cons_iff, mem_named htop hhome hhere, ih hrest]

/-! ## Places of collected files -/

theorem exists_mem_distinct {p : Text} {ps : List Text} (hp : p ∈ ps) :
    ∃ q ∈ distinct ps, Path.key q = Path.key p := by
  induction ps with
  | nil => cases hp
  | cons r ps ih =>
    -- The first path stays, and it stands for what is left out behind it.
    have hstep : ∀ q ∈ distinct ps, ∃ q' ∈ distinct (r :: ps), Path.key q' = Path.key q := by
      intro q hq
      rw [distinct]
      split
      next hnil =>
        rw [hnil] at hq
        cases hq
      next s ss hcons =>
        rw [hcons] at hq
        split
        next hsame =>
          rcases List.mem_cons.1 hq with rfl | hq
          · exact ⟨r, List.mem_cons_self .., Path.same_iff.1 hsame⟩
          · exact ⟨q, List.mem_cons_of_mem r hq, rfl⟩
        next => exact ⟨q, List.mem_cons_of_mem r hq, rfl⟩
    rcases List.mem_cons.1 hp with rfl | hp
    · refine ⟨p, ?_, rfl⟩
      rw [distinct]
      split
      · exact List.mem_cons_self ..
      · split <;> exact List.mem_cons_self ..
    · obtain ⟨q, hq, hkey⟩ := ih hp
      obtain ⟨q', hq', hkey'⟩ := hstep q hq
      exact ⟨q', hq', hkey'.trans hkey⟩

theorem key_eq_iff {p q : Text} : Path.key p = Path.key q ↔ Path.components p = Path.components q :=
  Component.key_injective.list_map.eq_iff

/-- What is collected is spelled as the arguments lead to it, once for each list of components. -/
theorem mem_collect (htop : top.IsPlain) (hhome : ∀ n ∈ home, IsName n)
    (h : (collect (Disk.ofTop top home) paths).run = .ok files) :
    (∀ f ∈ files, ∃ p ∈ paths, ∃ ns, Leads top home p ns ∧ f = joinAll p ns) ∧
    ∀ p ∈ paths, ∀ ns, Leads top home p ns →
      ∃ f ∈ files, Path.components f = Path.components (joinAll p ns) := by
  obtain ⟨found, hfound, rfl⟩ := collect_eq_ok.1 h
  have hmem (f : Text) := mem_gather (f := f) htop hhome hfound
  have hsort (f : Text) : f ∈ found.mergeSort Path.le ↔ f ∈ found := List.mem_mergeSort
  constructor
  · intro f hf
    exact (hmem f).1 ((hsort f).1 (distinct_subset _ hf))
  · intro p hp ns hleads
    have hjoin := (hmem (joinAll p ns)).2 ⟨p, hp, ns, hleads, rfl⟩
    obtain ⟨f, hf, hkey⟩ := exists_mem_distinct ((hsort _).2 hjoin)
    exact ⟨f, hf, key_eq_iff.1 hkey⟩

/-- Wherever arguments lead to one file, they spell it alike. -/
def SpelledAlike (top : Entry) (home : List Text) (paths : List Text) : Prop :=
  ∀ p ∈ paths, ∀ q ∈ paths, ∀ ns ks, Leads top home p ns → Leads top home q ks →
    Path.place home p ++ ns = Path.place home q ++ ks →
    Path.components p ++ ns.map .name = Path.components q ++ ks.map .name

/-- What an argument leads to is a file. -/
theorem Leads.exists_lookup (htop : top.IsPlain) (hhome : ∀ n ∈ home, IsName n) {p : Text}
    {ns : List Text} (h : Leads top home p ns) :
    ∃ c, top.lookup home (joinAll p ns) = .ok (.file c) := by
  obtain ⟨e, he, ⟨hkind, rfl⟩ | ⟨hfinds, -⟩⟩ := h
  · cases e with
    | file c => exact ⟨c, he⟩
    | directory es => cases hkind
    | link target => cases hkind
  · obtain ⟨c, hfile⟩ := hfinds.file
    have hplain := htop.at? (Entry.at?_of_lookup htop hhome he)
    exact ⟨c, Entry.lookup_joinAll htop hplain he hfile⟩

theorem Leads.ne_nil {p : Text} {ns : List Text} (h : Leads top home p ns) : p ≠ [] := by
  rintro rfl
  obtain ⟨e, he, -⟩ := h
  cases he

theorem Leads.isName (htop : top.IsPlain) (hhome : ∀ n ∈ home, IsName n) {p : Text} {ns : List Text}
    (h : Leads top home p ns) : ∀ n ∈ ns, IsName n := by
  obtain ⟨e, he, ⟨-, rfl⟩ | ⟨hfinds, -⟩⟩ := h
  · intro n hn
    cases hn
  · obtain ⟨c, hfile⟩ := hfinds.file
    exact (htop.at? (Entry.at?_of_lookup htop hhome he)).isName_of_at? hfile

/-- If all arguments lead to what they name and begin in the same way, followed by names only, they
spell everything alike. -/
theorem spelledAlike_of_start {start : List Component}
    (hpaths : ∀ p ∈ paths, ∃ ns : List Text, Path.components p = start ++ ns.map .name) :
    SpelledAlike top home paths := by
  intro p hp q hq ns ks _ _ hplace
  obtain ⟨ps, hps⟩ := hpaths p hp
  obtain ⟨qs, hqs⟩ := hpaths q hq
  rw [Path.place, Path.place, hps, hqs, List.foldl_append, List.foldl_append,
    Path.foldl_step_names, Path.foldl_step_names, List.append_assoc, List.append_assoc] at hplace
  have hnames : ps ++ ns = qs ++ ks := List.append_cancel_left hplace
  rw [hps, hqs, List.append_assoc, List.append_assoc, ← List.map_append, ← List.map_append, hnames]

theorem place_congr {p q : Text} (h : Path.components p = Path.components q) :
    Path.place home p = Path.place home q := by
  rw [Path.place, Path.place, h]

theorem pairwise_place_iff_spelledAlike (htop : top.IsPlain) (hhome : ∀ n ∈ home, IsName n)
    (h : (collect (Disk.ofTop top home) paths).run = .ok files) :
    (files.Pairwise fun f g => Path.place home f ≠ Path.place home g) ↔
      SpelledAlike top home paths := by
  obtain ⟨hleads, hspelled⟩ := mem_collect htop hhome h
  constructor
  · intro hplaces p hp q hq ns ks hpns hqks hplace
    obtain ⟨f, hf, hfcomponents⟩ := hspelled p hp ns hpns
    obtain ⟨g, hg, hgcomponents⟩ := hspelled q hq ks hqks
    have hpcomponents := Path.components_joinAll hpns.ne_nil (hpns.isName htop hhome)
    have hqcomponents := Path.components_joinAll hqks.ne_nil (hqks.isName htop hhome)
    have hsame : Path.place home f = Path.place home g := by
      rw [place_congr hfcomponents, place_congr hgcomponents,
        Path.place_joinAll hpns.ne_nil (hpns.isName htop hhome),
        Path.place_joinAll hqks.ne_nil (hqks.isName htop hhome), hplace]
    -- Two places of the list hold paths to one file only if they are one place.
    have hsymm : Std.Symm fun f g : Text => Path.place home f ≠ Path.place home g :=
      ⟨fun _ _ hne => hne.symm⟩
    have hfg : f = g := by
      by_contra hne
      exact hplaces.forall hf hg hne hsame
    rw [← hpcomponents, ← hqcomponents, ← hfcomponents, ← hgcomponents, hfg]
  · intro halike
    refine (pairwise_collect h).imp_of_mem ?_
    intro f g hf hg hlt hplace
    obtain ⟨p, hp, ns, hpns, rfl⟩ := hleads f hf
    obtain ⟨q, hq, ks, hqks, rfl⟩ := hleads g hg
    have hpnames := hpns.isName htop hhome
    have hqnames := hqks.isName htop hhome
    rw [Path.place_joinAll hpns.ne_nil hpnames, Path.place_joinAll hqks.ne_nil hqnames] at hplace
    have hcomponents := halike p hp q hq ns ks hpns hqks hplace
    rw [← Path.components_joinAll hpns.ne_nil hpnames,
      ← Path.components_joinAll hqks.ne_nil hqnames] at hcomponents
    exact hlt.ne (key_eq_iff.2 hcomponents)

/-- In a tree without links, arguments that all name a file or a directory are collected to a list
of paths to files. No two of them are paths to one file if and only if the arguments spell every
file alike to which they lead. They do so if they all begin in the same way and go on with names,
however they overlap. -/
theorem pairwise_place_iff (htop : top.IsPlain) (hhome : ∀ n ∈ home, IsName n)
    (hpaths : ∀ p ∈ paths, (Disk.ofTop top home).IsFile p ∨ (Disk.ofTop top home).IsDirectory p) :
    ∃ files, (collect (Disk.ofTop top home) paths).run = .ok files ∧
      (∀ f ∈ files, ∃ c, top.lookup home f = .ok (.file c) ∧
        top.at? (Path.place home f) = some (.file c)) ∧
      ((files.Pairwise fun f g => Path.place home f ≠ Path.place home g) ↔
        SpelledAlike top home paths) ∧
      ((∃ start, ∀ p ∈ paths, ∃ ns : List Text, Path.components p = start ++ ns.map .name) →
        files.Pairwise fun f g => Path.place home f ≠ Path.place home g) := by
  cases hfiles : (collect (Disk.ofTop top home) paths).run with
  | error q =>
    obtain ⟨p, hp, hnone⟩ := exists_collect_eq_error.1 ⟨q, hfiles⟩
    exact absurd (hpaths p hp) hnone
  | ok files =>
    have hplaces := pairwise_place_iff_spelledAlike htop hhome hfiles
    refine ⟨files, rfl, ?_, hplaces, ?_⟩
    · intro f hf
      obtain ⟨p, hp, ns, hleads, rfl⟩ := (mem_collect htop hhome hfiles).1 f hf
      obtain ⟨c, hc⟩ := hleads.exists_lookup htop hhome
      exact ⟨c, hc, Entry.at?_of_lookup htop hhome hc⟩
    · rintro ⟨start, hstart⟩
      exact hplaces.2 (spelledAlike_of_start hstart)

/-- A tree whose working directory `w` has a script and a directory with another. -/
def twoScripts : Entry :=
  .directory [(['w'], .directory [
    ("a.js".toList, .file (some "f()".toList)),
    ("src".toList, .directory [("b.js".toList, .file (some []))])])]

theorem isPlain_twoScripts : twoScripts.IsPlain := by
  have hfile (c : Option Text) : (Entry.file c).IsPlain := .file c
  have hsrc : (Entry.directory [("b.js".toList, .file (some []))]).IsPlain :=
    .directory (by decide) (by decide) (List.forall_mem_singleton.2 (hfile _))
  have hw : (Entry.directory [("a.js".toList, .file (some "f()".toList)),
      ("src".toList, .directory [("b.js".toList, .file (some []))])]).IsPlain :=
    .directory (by decide) (by decide)
      (List.forall_mem_cons.2 ⟨hfile _, List.forall_mem_singleton.2 hsrc⟩)
  exact .directory (by decide) (by decide) (List.forall_mem_singleton.2 hw)

/-- A directory, a script in it and another script are three arguments for two files. -/
theorem pairwise_place_twoScripts : ∃ files,
    (collect (Disk.ofTop twoScripts [['w']])
      ["src".toList, "src/b.js".toList, "a.js".toList]).run = .ok files ∧
    files.Pairwise fun f g => Path.place [['w']] f ≠ Path.place [['w']] g := by
  have hpaths : ∀ p ∈ ["src".toList, "src/b.js".toList, "a.js".toList],
      (Disk.ofTop twoScripts [['w']]).IsFile p ∨ (Disk.ofTop twoScripts [['w']]).IsDirectory p := by
    simp only [List.forall_mem_cons]
    exact ⟨.inr rfl, .inl rfl, .inl rfl, by simp⟩
  have hnames : ∀ p ∈ ["src".toList, "src/b.js".toList, "a.js".toList],
      ∃ ns : List Text, Path.components p = [] ++ ns.map .name := by
    simp only [List.forall_mem_cons]
    exact ⟨⟨["src".toList], rfl⟩, ⟨["src".toList, "b.js".toList], rfl⟩, ⟨["a.js".toList], rfl⟩,
      by simp⟩
  have hhome : ∀ n ∈ [['w']], IsName n := by decide
  obtain ⟨files, hfiles, -, -, hplaces⟩ := pairwise_place_iff isPlain_twoScripts hhome hpaths
  exact ⟨files, hfiles, hplaces ⟨[], hnames⟩⟩

/-- The working directory and a script in it are two arguments that lead to the script, and it is
collected twice. -/
theorem collect_twice : twoScripts.IsPlain ∧
    (Disk.ofTop twoScripts [['w']]).IsDirectory ".".toList ∧
    (Disk.ofTop twoScripts [['w']]).IsFile "a.js".toList ∧
    (collect (Disk.ofTop twoScripts [['w']]) [".".toList, "a.js".toList]).run =
      .ok ["./a.js".toList, "./src/b.js".toList, "a.js".toList] ∧
    Path.place [['w']] "./a.js".toList = Path.place [['w']] "a.js".toList := by
  refine ⟨isPlain_twoScripts, rfl, rfl, ?_, by decide⟩
  have hgather : (gather (Disk.ofTop twoScripts [['w']]) [".".toList, "a.js".toList]).run =
      .ok ["./a.js".toList, "./src/b.js".toList, "a.js".toList] := rfl
  have hsorted : ["./a.js".toList, "./src/b.js".toList, "a.js".toList].Pairwise
      fun p q => Path.le p q = true := by decide
  rw [collect_eq, hgather, Except.map, List.mergeSort_of_pairwise hsorted]
  rfl

end Files

end ScriptStyle
