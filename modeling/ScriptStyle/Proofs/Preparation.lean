import ScriptStyle.Command.Run
import ScriptStyle.Proofs.Naming
import ScriptStyle.Proofs.Paths

/-!
# How a run begins

A run can begin unless its arguments are malformed, the settings it chooses cannot be had, a pattern
for names cannot be read although names are checked, or some path names neither a file nor a
directory. The program looks at these in turn and stops at the first that is wrong; whether it can
begin does not depend on the order.
-/

namespace ScriptStyle

namespace Disk

/-! ## What paths name -/

/-- The path names a file. -/
def IsFile (disk : Disk Id) (p : Text) : Prop := (disk.kind p).run = some .file

/-- The path names a directory. -/
def IsDirectory (disk : Disk Id) (p : Text) : Prop := (disk.kind p).run = some .directory

instance (disk : Disk Id) : DecidablePred disk.IsFile :=
  fun p => inferInstanceAs (Decidable ((disk.kind p).run = some .file))

/-- The path is that of a settings file in the working directory, and no name that is to be
preferred is that of a file there. -/
def Discovers (disk : Disk Id) (p : Text) : Prop :=
  ∃ preferred rest,
    Settings.fileNames.map (fun n => Path.join disk.workingDirectory.run n.toList) =
      preferred ++ p :: rest ∧
    disk.IsFile p ∧ ∀ q ∈ preferred, ¬disk.IsFile q

end Disk

variable {disk : Disk Id}

namespace Settings

theorem firstFile_eq (ps : List Text) :
    (firstFile disk ps).run = ps.find? (disk.IsFile ·) := by
  induction ps with
  | nil => rfl
  | cons p ps ih =>
    have hstep : (firstFile disk (p :: ps)).run =
        if disk.IsFile p then some p else (firstFile disk ps).run := rfl
    rw [hstep, ih, List.find?_cons]
    split <;> simp_all

theorem discover_eq_some {p : Text} :
    (discover disk disk.workingDirectory.run).run = some p ↔ disk.Discovers p := by
  rw [discover, firstFile_eq, List.find?_eq_some_iff_append]
  simp [Disk.Discovers, and_left_comm]

end Settings

namespace Files

theorem named_eq (p : Text) : (named disk p).run = match (disk.kind p).run with
    | some .file => some [p]
    | some .directory => some (scripts disk disk.depth p).run
    | _ => none := rfl

theorem named_eq_none {p : Text} :
    (named disk p).run = none ↔ ¬(disk.IsFile p ∨ disk.IsDirectory p) := by
  rw [named_eq, Disk.IsFile, Disk.IsDirectory]
  split <;> simp_all

theorem gather_cons (p : Text) (ps : List Text) :
    (gather disk (p :: ps)).run = match (named disk p).run with
      | none => .error p
      | some fs => (gather disk ps).run.map (fs ++ ·) := rfl

theorem gather_cons_eq_ok {p : Text} {ps fs : List Text} :
    (gather disk (p :: ps)).run = .ok fs ↔ ∃ here rest, (named disk p).run = some here ∧
      (gather disk ps).run = .ok rest ∧ here ++ rest = fs := by
  rw [gather_cons]
  cases (named disk p).run with
  | none => simp
  | some here => cases (gather disk ps).run <;> simp [Except.map]

/-- Gathering files stops at a path if and only if some path names nothing. -/
theorem exists_gather_eq_error {ps : List Text} :
    (∃ p, (gather disk ps).run = .error p) ↔
      ∃ p ∈ ps, ¬(disk.IsFile p ∨ disk.IsDirectory p) := by
  simp only [← named_eq_none]
  induction ps with
  | nil => simp [gather]
  | cons q ps ih =>
    rw [gather_cons, List.exists_mem_cons_iff]
    cases (named disk q).run with
    | none => simp
    | some fs =>
      rw [or_iff_right (by simp), ← ih]
      refine exists_congr fun p => ?_
      cases (gather disk ps).run <;> simp [Except.map]

theorem exists_collect_eq_error {ps : List Text} :
    (∃ p, (collect disk ps).run = .error p) ↔
      ∃ p ∈ ps, ¬(disk.IsFile p ∨ disk.IsDirectory p) := by
  rw [← exists_gather_eq_error]
  refine exists_congr fun p => ?_
  rw [collect_eq]
  cases (gather disk ps).run <;> simp [Except.map]

end Files

namespace Linter

end Linter

namespace Command

/-! ## Settings -/

/-- The file holds settings, written as its extension says. -/
def HoldsSettings (disk : Disk Id) (p : Text) (s : Settings) : Prop :=
  ∃ format text, SettingsFormat.ofPath? p = some format ∧ (disk.read p).run = .ok text ∧
    Settings.ofText text format p = .ok s

theorem load_eq (p : Text) : (Settings.load disk p).run = match SettingsFormat.ofPath? p with
    | none => .error (.unknownFormat p)
    | some f => match (disk.read p).run with
      | .error e => .error (.unreadable p e)
      | .ok t => Settings.ofText t f p := by
  rw [Settings.load]
  cases SettingsFormat.ofPath? p <;> rfl

theorem load_eq_ok {p : Text} {s : Settings} :
    (Settings.load disk p).run = .ok s ↔ HoldsSettings disk p s := by
  rw [load_eq, HoldsSettings]
  cases SettingsFormat.ofPath? p with
  | none => simp
  | some f => cases (disk.read p).run <;> simp

namespace SettingsOrigin

/-- The file that is read for the settings. -/
def file? : SettingsOrigin → Option Text
  | given p => some p
  | found p => some p
  | recommended => none

/-- The settings can be had, and these are they. -/
def Gives (disk : Disk Id) (origin : SettingsOrigin) (s : Settings) : Prop :=
  match origin.file? with
  | some p => HoldsSettings disk p s
  | none => s = Settings.recommended

theorem settings_eq_ok {origin : SettingsOrigin} {s : Settings} :
    (origin.settings disk).run = .ok s ↔ origin.Gives disk s := by
  cases origin with
  | given p => exact load_eq_ok
  | found p => exact load_eq_ok
  | recommended => simp [settings, Gives, file?, eq_comm]

end SettingsOrigin

namespace Options

variable {o : Options}

/-- The options lead to settings of an origin: the file that is asked for, else the one in the
working directory, else none. -/
def Chooses (disk : Disk Id) (o : Options) : SettingsOrigin → Prop
  | .given p => o.config = some p
  | .found p => o.config = none ∧ disk.Discovers p
  | .recommended => o.config = none ∧ ∀ p, ¬disk.Discovers p

theorem origin_eq (disk : Disk Id) (o : Options) : (o.origin disk).run = match o.config with
    | some p => .given p
    | none => match (Settings.discover disk disk.workingDirectory.run).run with
      | some p => .found p
      | none => .recommended := by
  rw [Options.origin]
  cases o.config <;> rfl

theorem origin_eq_iff {origin : SettingsOrigin} :
    (o.origin disk).run = origin ↔ o.Chooses disk origin := by
  rw [origin_eq]
  cases hconfig : o.config with
  | some p => cases origin <;> simp [Chooses, hconfig]
  | none =>
    simp only [Chooses, hconfig, ← Settings.discover_eq_some]
    cases (Settings.discover disk disk.workingDirectory.run).run <;> cases origin <;> simp

/-! ## Preparation -/

/-- The options lead to a linter and to files. -/
structure Prepares (disk : Disk Id) (o : Options) (j : Job) : Prop where
  linter : ∃ origin s, o.Chooses disk origin ∧ origin.Gives disk s ∧
    Linter.ofSettings s = .ok j.linter
  files : (Files.collect disk o.searched).run = .ok j.files

/-- What preparing comes to, stage by stage, with everything that is logged. -/
theorem prepare_eq (disk : Disk Id) (o : Options) : (o.prepare disk).run =
    match ((o.origin disk).run.settings disk).run with
    | .error e => ⟨[.ofOrigin (o.origin disk).run], .error (.settings e)⟩
    | .ok s => match Linter.ofSettings s with
      | .error e => ⟨[.ofOrigin (o.origin disk).run], .error (.pattern e)⟩
      | .ok linter => match (Files.collect disk o.searched).run with
        | .error p => ⟨[.ofOrigin (o.origin disk).run, .ofLinter linter], .error (.missingPath p)⟩
        | .ok files => ⟨.ofOrigin (o.origin disk).run :: .ofLinter linter ::
            LogRecord.ofFiles files.length, .ok ⟨linter, files⟩⟩ := rfl

theorem job_prepare (disk : Disk Id) (o : Options) : (o.prepare disk).run.job =
    match ((o.origin disk).run.settings disk).run with
    | .error e => .error (.settings e)
    | .ok s => match Linter.ofSettings s with
      | .error e => .error (.pattern e)
      | .ok linter => match (Files.collect disk o.searched).run with
        | .error p => .error (.missingPath p)
        | .ok files => .ok ⟨linter, files⟩ := by
  rw [prepare_eq]
  split
  · rfl
  · split
    · rfl
    · split <;> rfl

theorem job_eq_ok {j : Job} : (o.prepare disk).run.job = .ok j ↔ o.Prepares disk j := by
  rw [job_prepare]
  constructor
  · intro h
    split at h
    next => cases h
    next s hs =>
      split at h
      next => cases h
      next linter hlinter =>
        split at h
        next => cases h
        next files hfiles =>
          cases h
          have hchosen := origin_eq_iff.mp (rfl : (o.origin disk).run = _)
          exact ⟨⟨_, s, hchosen, SettingsOrigin.settings_eq_ok.mp hs, hlinter⟩, hfiles⟩
  · rintro ⟨⟨origin, s, hchosen, hgiven, hlinter⟩, hfiles⟩
    obtain rfl := origin_eq_iff.mpr hchosen
    simp [SettingsOrigin.settings_eq_ok.mpr hgiven, hlinter, hfiles]

end Options

/-! ## Arguments -/

/-- The arguments are no call for help or for the version, and if a log is kept, their filter for it
can be used. -/
structure AsksToLint (console : Console) (arguments : List Text) : Prop where
  request : ∀ r, Request.ofArguments arguments = .ok r → ∃ o, r = .lint o
  logFilter : ∀ o, Request.ofArguments arguments = .ok (.lint o) → console.logging →
    ∃ f, LogFilter.ofText (o.logFilter.getD defaultLogFilter) = .ok f

/-- The arguments ask for a run that can begin. -/
structure Begins (disk : Disk Id) (arguments : List Text) (o : Options) (j : Job) : Prop where
  request : Request.ofArguments arguments = .ok (.lint o)
  prepares : o.Prepares disk j

end Command

end ScriptStyle
