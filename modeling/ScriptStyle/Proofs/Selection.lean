import Mathlib.Data.List.Sort
import Mathlib.Data.List.TakeWhile
import ScriptStyle.Proofs.Collection

/-!
# The files that arguments select

`Selects` says, without a word on how files are searched, which files an argument stands for: the
file that it names, or the scripts below the directory that it names. Only the directories between
the argument and a script can rule it out, and only by their names. `collect_selects` says that the
files of a run are these and come in the order of paths, which leaves nothing to the order of the
arguments.
-/

namespace ScriptStyle

namespace Path

/-! ## Names of scripts -/

/-- The name has one of the extensions of scripts, in any case, and something before the dot. -/
def IsScriptName (n : Text) : Prop :=
  ∃ stem ext, stem ≠ [] ∧ n = stem ++ '.' :: ext ∧ lower ext ∈ scriptExtensions.map String.toList

theorem extension?_eq_some_iff {p n ext : Text} (hn : fileName? p = some n) :
    extension? p = some ext ↔ ∃ stem, stem ≠ [] ∧ n = stem ++ '.' :: ext ∧ '.' ∉ ext := by
  simp only [extension?, hn, bind, Option.bind]
  constructor
  · intro h
    split at h
    next d ds hdrop =>
      obtain rfl := Option.some.inj h
      have hback := List.prefix_iff_eq_append.mp (List.takeWhile_prefix (· != '.') (l := n.reverse))
      rw [hdrop] at hback
      have hn : n = (n.reverse.takeWhile (· != '.') ++ '.' :: d :: ds).reverse := by
        rw [hback, List.reverse_reverse]
      refine ⟨(d :: ds).reverse, by simp, hn.trans (by simp), ?_⟩
      intro hdot
      have hplain := List.mem_takeWhile_imp (List.mem_reverse.mp hdot)
      exact absurd hplain (by decide)
    next => cases h
  · rintro ⟨stem, hstem, rfl, hext⟩
    have hplain : ∀ c ∈ ext.reverse, (c != '.') = true := by
      intro c hc
      have hne : c ≠ '.' := fun hdot => hext (hdot ▸ List.mem_reverse.mp hc)
      simpa using hne
    have htake : (stem ++ '.' :: ext).reverse.takeWhile (· != '.') = ext.reverse := by
      rw [List.reverse_append, List.reverse_cons, List.append_assoc,
        List.takeWhile_append_of_pos hplain, List.singleton_append,
        List.takeWhile_cons_of_neg (by decide), List.append_nil]
    have hdrop : (stem ++ '.' :: ext).reverse.drop ext.reverse.length = '.' :: stem.reverse := by
      rw [List.reverse_append, List.reverse_cons, List.append_assoc, List.drop_left,
        List.singleton_append]
    rw [htake, hdrop, List.reverse_reverse]
    cases hback : stem.reverse with
    | nil => exact absurd (List.reverse_eq_nil_iff.mp hback) hstem
    | cons d ds => rfl

theorem isScriptExtension_iff {ext : Text} :
    isScriptExtension ext = true ↔ lower ext ∈ scriptExtensions.map String.toList := by
  simp [isScriptExtension]

/-- An extension is a word without dots. -/
theorem dot_not_mem_of_isScriptExtension {ext : Text} (h : isScriptExtension ext = true) :
    '.' ∉ ext := by
  intro hdot
  have hlower : '.' ∈ lower ext := List.mem_map.mpr ⟨'.', hdot, rfl⟩
  have hnone : ∀ known ∈ scriptExtensions.map String.toList, '.' ∉ known := by decide
  exact hnone _ (isScriptExtension_iff.mp h) hlower

theorem isScript_iff {p n : Text} (hn : fileName? p = some n) :
    isScript p = true ↔ IsScriptName n := by
  rw [isScript, Option.any_eq_true]
  constructor
  · rintro ⟨ext, hext, hscript⟩
    obtain ⟨stem, hstem, rfl, -⟩ := (extension?_eq_some_iff hn).mp hext
    exact ⟨stem, ext, hstem, rfl, isScriptExtension_iff.mp hscript⟩
  · rintro ⟨stem, ext, hstem, rfl, hlower⟩
    have hscript := isScriptExtension_iff.mpr hlower
    have hdot := dot_not_mem_of_isScriptExtension hscript
    exact ⟨ext, (extension?_eq_some_iff hn).mpr ⟨stem, hstem, rfl, hdot⟩, hscript⟩

theorem fileName?_joinAll {d n : Text} {ns : List Text} (hd : d ≠ [])
    (hns : ∀ k ∈ ns ++ [n], IsName k) : fileName? (joinAll d (ns ++ [n])) = some n := by
  rw [fileName?, components_joinAll hd hns]
  simp

end Path

namespace Files

open Path (IsName IsScriptName joinAll)

variable {top : Entry} {home : List Text} {p f : Text} {paths files : List Text}

/-! ## What arguments stand for -/

/-- An argument stands for the file that it names, or for a script below the directory that it
names. The directories in between are neither hidden nor do they hold packages. -/
inductive Selects (top : Entry) (home : List Text) (p : Text) : Text → Prop
  | file {c : Option Text} (h : top.lookup home p = .ok (.file c)) : Selects top home p p
  | script {es : List (Text × Entry)} {ns : List Text} {n : Text} {c : Option Text}
      (h : top.lookup home p = .ok (.directory es))
      (hfile : (Entry.directory es).at? (ns ++ [n]) = some (.file c))
      (hsearched : ∀ k ∈ ns, k.head? ≠ some '.' ∧ k ≠ "node_modules".toList)
      (hscript : IsScriptName n) : Selects top home p (joinAll p (ns ++ [n]))

theorem isSkipped_eq_false_iff {k : Text} :
    isSkipped k = false ↔ k.head? ≠ some '.' ∧ k ≠ "node_modules".toList := by
  rw [isSkipped, Bool.or_eq_false_iff, decide_eq_false_iff_not, decide_eq_false_iff_not]

theorem selects_iff (htop : top.IsPlain) (hhome : ∀ n ∈ home, IsName n) :
    Selects top home p f ↔ ∃ ns, Leads top home p ns ∧ f = joinAll p ns := by
  constructor
  · intro h
    cases h with
    | file h => exact ⟨[], ⟨_, h, .inl ⟨rfl, rfl⟩⟩, rfl⟩
    | @script es ns n c h hfile hsearched hscript =>
      have hplain := htop.at? (Entry.at?_of_lookup htop hhome h)
      have hnames := hplain.isName_of_at? hfile
      have hp : p ≠ [] := ((Entry.lookup_eq_ok_iff htop).mp h).1
      have hfinds : (Entry.directory es).Finds (ns ++ [n]) := by
        refine ⟨⟨c, hfile⟩, by simp, ?_⟩
        rw [List.dropLast_concat]
        exact fun k hk => isSkipped_eq_false_iff.mpr (hsearched k hk)
      have hpath := (Path.isScript_iff (Path.fileName?_joinAll hp hnames)).mpr hscript
      exact ⟨ns ++ [n], ⟨_, h, .inr ⟨hfinds, hpath⟩⟩, rfl⟩
  · rintro ⟨ns, hleads, rfl⟩
    have hp := hleads.ne_nil
    have hnames := hleads.isName htop hhome
    obtain ⟨e, he, ⟨hkind, rfl⟩ | ⟨hfinds, hscript⟩⟩ := hleads
    · cases e with
      | file c => exact .file he
      | directory es => cases hkind
      | link target => cases hkind
    · obtain ⟨ks, n, rfl⟩ : ∃ ks n, ns = ks ++ [n] :=
        ⟨_, _, (List.dropLast_append_getLast hfinds.below).symm⟩
      obtain ⟨c, hfile⟩ := hfinds.file
      have hsearched := hfinds.searched
      rw [List.dropLast_concat] at hsearched
      have hdirectory := hfinds.kind_eq
      cases e with
      | directory es =>
        exact .script he hfile (fun k hk => isSkipped_eq_false_iff.mp (hsearched k hk))
          ((Path.isScript_iff (Path.fileName?_joinAll hp hnames)).mp hscript)
      | file c => cases hdirectory
      | link target => cases hdirectory

/-! ## The first argument that names nothing -/

theorem gather_eq_error_iff {disk : Disk Id} : (gather disk paths).run = .error p ↔
    ∃ before after, paths = before ++ p :: after ∧
      (∀ q ∈ before, disk.IsFile q ∨ disk.IsDirectory q) ∧
      ¬ (disk.IsFile p ∨ disk.IsDirectory p) := by
  induction paths with
  | nil => simp [gather]
  | cons q ps ih =>
    -- Either the first argument is the one that is missing, or it is there and the rest decides.
    rw [gather_cons]
    cases hq : (named disk q).run with
    | none =>
      have hmissing := named_eq_none.mp hq
      constructor
      · intro h
        obtain rfl := Except.error.inj h
        exact ⟨[], ps, rfl, List.forall_mem_nil _, hmissing⟩
      · rintro ⟨before, after, hsplit, hbefore, -⟩
        cases before with
        | nil => exact congrArg _ (List.cons.inj hsplit).1
        | cons r before =>
          obtain ⟨rfl, -⟩ := List.cons.inj hsplit
          exact absurd (hbefore q List.mem_cons_self) hmissing
    | some here =>
      have hthere : disk.IsFile q ∨ disk.IsDirectory q := by
        rw [← not_not (a := _ ∨ _), ← named_eq_none, hq]
        exact Option.some_ne_none here
      have hmap : (gather disk ps).run.map (here ++ ·) = .error p ↔
          (gather disk ps).run = .error p := by
        cases (gather disk ps).run <;> simp [Except.map]
      refine hmap.trans (ih.trans ⟨?_, ?_⟩)
      · rintro ⟨before, after, rfl, hbefore, hmissing⟩
        exact ⟨q :: before, after, rfl, List.forall_mem_cons.mpr ⟨hthere, hbefore⟩, hmissing⟩
      · rintro ⟨before, after, hsplit, hbefore, hmissing⟩
        cases before with
        | nil =>
          obtain ⟨rfl, -⟩ := List.cons.inj hsplit
          exact absurd hthere hmissing
        | cons r before =>
          obtain ⟨rfl, rfl⟩ := List.cons.inj hsplit
          exact ⟨before, after, rfl, (List.forall_mem_cons.mp hbefore).2, hmissing⟩

theorem collect_eq_error_iff {disk : Disk Id} : (collect disk paths).run = .error p ↔
    ∃ before after, paths = before ++ p :: after ∧
      (∀ q ∈ before, disk.IsFile q ∨ disk.IsDirectory q) ∧
      ¬ (disk.IsFile p ∨ disk.IsDirectory p) := by
  rw [← gather_eq_error_iff, collect_eq]
  cases (gather disk paths).run <;> simp [Except.map]

/-! ## What a run collects -/

theorem exists_collect_eq_ok {disk : Disk Id}
    (h : ∀ p ∈ paths, disk.IsFile p ∨ disk.IsDirectory p) :
    ∃ files, (collect disk paths).run = .ok files := by
  cases hfiles : (collect disk paths).run with
  | ok files => exact ⟨files, rfl⟩
  | error q =>
    obtain ⟨p, hp, hmissing⟩ := exists_collect_eq_error.mp ⟨q, hfiles⟩
    exact absurd (h p hp) hmissing

/-- Up to spelling, files are collected if and only if some argument stands for them. -/
theorem mem_map_key_collect (htop : top.IsPlain) (hhome : ∀ n ∈ home, IsName n)
    (h : (collect (Disk.ofTop top home) paths).run = .ok files) {k : List (ℕ ×ₗ List Char)} :
    k ∈ files.map Path.key ↔ ∃ p ∈ paths, ∃ f, Selects top home p f ∧ Path.key f = k := by
  obtain ⟨hleads, hspelled⟩ := mem_collect htop hhome h
  rw [List.mem_map]
  constructor
  · rintro ⟨f, hf, rfl⟩
    obtain ⟨p, hp, hf⟩ := hleads f hf
    exact ⟨p, hp, f, (selects_iff htop hhome).mpr hf, rfl⟩
  · rintro ⟨p, hp, f, hf, rfl⟩
    obtain ⟨ns, hns, rfl⟩ := (selects_iff htop hhome).mp hf
    obtain ⟨f, hf, hcomponents⟩ := hspelled p hp ns hns
    exact ⟨f, hf, key_eq_iff.mpr hcomponents⟩

/-- Arguments that are the same but for order and repetitions collect the same files. -/
theorem map_components_collect (htop : top.IsPlain) (hhome : ∀ n ∈ home, IsName n)
    {paths' files' : List Text} (hpaths : ∀ p, p ∈ paths' ↔ p ∈ paths)
    (h : (collect (Disk.ofTop top home) paths).run = .ok files)
    (h' : (collect (Disk.ofTop top home) paths').run = .ok files') :
    files'.map Path.components = files.map Path.components := by
  have hmem (k : List (ℕ ×ₗ List Char)) : k ∈ files'.map Path.key ↔ k ∈ files.map Path.key := by
    rw [mem_map_key_collect htop hhome h, mem_map_key_collect htop hhome h']
    simp only [hpaths]
  have hsorted := List.pairwise_map.mpr (pairwise_collect h)
  have hsorted' := List.pairwise_map.mpr (pairwise_collect h')
  have hkeys := hsorted'.eq_of_mem_iff hsorted hmem
  have hkey (fs : List Text) : fs.map Path.key =
      (fs.map Path.components).map (List.map Component.key) := by
    rw [List.map_map]
    rfl
  rw [hkey, hkey] at hkeys
  exact Component.key_injective.list_map.list_map hkeys

/-- In a tree without links, a run fails at the first argument that names neither a file nor a
directory. If there is none, the files that are collected come in the order of paths, no path twice,
and are the ones that the arguments stand for. So only which arguments there are makes a
difference. -/
theorem collect_selects (htop : top.IsPlain) (hhome : ∀ n ∈ home, IsName n) (paths : List Text) :
    (∀ p, (collect (Disk.ofTop top home) paths).run = .error p ↔
      ∃ before after, paths = before ++ p :: after ∧
        (∀ q ∈ before, (Disk.ofTop top home).IsFile q ∨ (Disk.ofTop top home).IsDirectory q) ∧
        ¬ ((Disk.ofTop top home).IsFile p ∨ (Disk.ofTop top home).IsDirectory p)) ∧
    ((∀ p ∈ paths, (Disk.ofTop top home).IsFile p ∨ (Disk.ofTop top home).IsDirectory p) →
      ∃ files, (collect (Disk.ofTop top home) paths).run = .ok files ∧
        (files.Pairwise fun f g => Path.key f < Path.key g) ∧
        (∀ f ∈ files, ∃ p ∈ paths, Selects top home p f) ∧
        (∀ p ∈ paths, ∀ f, Selects top home p f → ∃ g ∈ files, Path.same g f) ∧
        ∀ paths', (∀ p, p ∈ paths' ↔ p ∈ paths) →
          ∃ files', (collect (Disk.ofTop top home) paths').run = .ok files' ∧
            files'.map Path.components = files.map Path.components) := by
  refine ⟨fun p => collect_eq_error_iff, fun hpaths => ?_⟩
  obtain ⟨files, hfiles⟩ := exists_collect_eq_ok hpaths
  refine ⟨files, hfiles, pairwise_collect hfiles, ?_, ?_, ?_⟩
  · intro f hf
    obtain ⟨p, hp, hleads⟩ := (mem_collect htop hhome hfiles).1 f hf
    exact ⟨p, hp, (selects_iff htop hhome).mpr hleads⟩
  · intro p hp f hf
    have hkey := (mem_map_key_collect htop hhome hfiles).mpr ⟨p, hp, f, hf, rfl⟩
    obtain ⟨g, hg, hsame⟩ := List.mem_map.mp hkey
    exact ⟨g, hg, Path.same_iff.mpr hsame⟩
  · intro paths' hsame
    obtain ⟨files', hfiles'⟩ := exists_collect_eq_ok fun p hp => hpaths p ((hsame p).mp hp)
    exact ⟨files', hfiles', map_components_collect htop hhome hsame hfiles hfiles'⟩

/-- A tree whose working directory `w` has a script, a text and a directory of packages with two
scripts, one of them hidden, and a hidden directory with a third. -/
def packages : Entry :=
  .directory [(['w'], .directory [
    ("a.JS".toList, .file (some [])),
    ("notes.txt".toList, .file none),
    ("node_modules".toList, .directory [
      ("b.js".toList, .file (some [])),
      (".c.mjs".toList, .file (some [])),
      (".d".toList, .directory [("e.js".toList, .file (some []))])])])]

theorem isPlain_packages : packages.IsPlain := by
  have hfile (c : Option Text) : (Entry.file c).IsPlain := .file c
  have hhidden : (Entry.directory [("e.js".toList, .file (some []))]).IsPlain :=
    .directory (by decide) (by decide) (List.forall_mem_singleton.mpr (hfile _))
  have hmodules : (Entry.directory [("b.js".toList, .file (some [])),
      (".c.mjs".toList, .file (some [])),
      (".d".toList, .directory [("e.js".toList, .file (some []))])]).IsPlain := by
    refine .directory (by decide) (by decide) ?_
    simp only [List.forall_mem_cons]
    exact ⟨hfile _, hfile _, hhidden, nofun⟩
  refine .directory (by decide) (by decide) (List.forall_mem_singleton.mpr ?_)
  refine .directory (by decide) (by decide) ?_
  simp only [List.forall_mem_cons]
  exact ⟨hfile _, hfile _, hmodules, nofun⟩

/-- A directory of packages is searched if it is an argument itself, and a text is collected if it
is one. -/
theorem collect_selects_packages : packages.IsPlain ∧
    (collect (Disk.ofTop packages [['w']]) ["node_modules".toList, ['x'], ['y']]).run =
      .error ['x'] ∧
    ∃ files, (collect (Disk.ofTop packages [['w']])
        ["notes.txt".toList, "node_modules".toList, "notes.txt".toList]).run = .ok files ∧
      (files.Pairwise fun f g => Path.key f < Path.key g) ∧
      (∃ g ∈ files, Path.same g "notes.txt".toList) ∧
      ∃ g ∈ files, Path.same g "node_modules/.c.mjs".toList := by
  have hhome : ∀ n ∈ [['w']], IsName n := by decide
  have hmissing := (collect_selects isPlain_packages hhome
    ["node_modules".toList, ['x'], ['y']]).1 ['x']
  have hpaths : ∀ p ∈ ["notes.txt".toList, "node_modules".toList, "notes.txt".toList],
      (Disk.ofTop packages [['w']]).IsFile p ∨ (Disk.ofTop packages [['w']]).IsDirectory p := by
    simp only [List.forall_mem_cons]
    exact ⟨.inl rfl, .inr rfl, .inl rfl, nofun⟩
  obtain ⟨files, hfiles, hsorted, -, hselected, -⟩ :=
    (collect_selects isPlain_packages hhome _).2 hpaths
  have htext : Selects packages [['w']] "notes.txt".toList "notes.txt".toList := .file rfl
  have hscript : Selects packages [['w']] "node_modules".toList
      (joinAll "node_modules".toList ([] ++ [".c.mjs".toList])) :=
    .script rfl rfl nofun ⟨".c".toList, "mjs".toList, by decide, rfl, by decide⟩
  refine ⟨isPlain_packages, hmissing.mpr ⟨["node_modules".toList], [['y']], rfl, ?_, ?_⟩, files,
    hfiles, hsorted, hselected _ (by decide) _ htext, hselected _ (by decide) _ hscript⟩
  · exact List.forall_mem_singleton.mpr (.inr rfl)
  · rintro (h | h) <;> cases h

end Files

end ScriptStyle
