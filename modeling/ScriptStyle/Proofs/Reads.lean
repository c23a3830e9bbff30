import ScriptStyle.Proofs.Preparation

/-!
# The files that a run reads

A file system can keep a list of the files that are read. A run on such a file system comes to the
same as before, and the list says which files it has looked into: first the settings, if there is a
file with settings, and then every file that it has gathered, once each and in order. A run that
cannot begin has looked into the settings at most.
-/

namespace ScriptStyle

/-- The file system with a list of the files that were read. -/
def Disk.recorded (disk : Disk Id) : Disk (StateM (List Text)) where
  workingDirectory := pure disk.workingDirectory.run
  kind p := pure (disk.kind p).run
  entries p := pure (disk.entries p).run
  read p := do
    modify (· ++ [p])
    return (disk.read p).run
  depth := disk.depth

/-- The computation comes to `a` and adds `ps` to the files that were read. -/
def Reads {α : Type} (x : StateM (List Text) α) (a : α) (ps : List Text) : Prop :=
  ∀ seen, (x.run seen).run = (a, seen ++ ps)

namespace Reads

/-! ## Computations -/

variable {α β : Type} {a : α} {b : β} {ps qs : List Text}

protected theorem pure (a : α) : Reads (pure a) a [] := by
  intro seen
  simp

protected theorem bind {x : StateM (List Text) α} {f : α → StateM (List Text) β}
    (hx : Reads x a ps) (hf : Reads (f a) b qs) : Reads (x >>= f) b (ps ++ qs) := by
  intro seen
  have hx := hx seen
  have hf := hf (seen ++ ps)
  simp_all [StateT.run_bind]

/-- What is made of the result reads nothing more. -/
protected theorem map {x : StateM (List Text) α} (hx : Reads x a ps) (f : α → β) :
    Reads (do return f (← x)) (f a) ps := by
  intro seen
  have hx := hx seen
  simp_all

/-- What follows a computation that reads nothing. -/
theorem after {x : StateM (List Text) α} {f : α → StateM (List Text) β}
    (hx : Reads x a []) (hf : Reads (f a) b qs) : Reads (x >>= f) b qs :=
  hx.bind hf

protected theorem mapM {f : α → StateM (List Text) β} {g : α → Id β} {r : α → List Text}
    (h : ∀ x, Reads (f x) (g x).run (r x)) (xs : List α) :
    Reads (xs.mapM f) (xs.mapM g).run (xs.flatMap r) := by
  induction xs with
  | nil => exact Reads.pure _
  | cons x xs ih =>
    rw [List.mapM_cons, List.mapM_cons, List.flatMap_cons]
    exact (h x).bind (ih.map _)

/-! ## Files -/

variable {disk : Disk Id}

theorem read (p : Text) : Reads (disk.recorded.read p) (disk.read p).run [p] := by
  intro seen
  simp [Disk.recorded]

theorem firstFile (ps : List Text) :
    Reads (Settings.firstFile disk.recorded ps) (Settings.firstFile disk ps).run [] := by
  induction ps with
  | nil => exact Reads.pure _
  | cons p ps ih =>
    refine (Reads.pure (disk.kind p).run).after ?_
    have hstep : (Settings.firstFile disk (p :: ps)).run =
        if (disk.kind p).run = some .file then some p else (Settings.firstFile disk ps).run := rfl
    rw [hstep]
    split
    · exact Reads.pure _
    · exact ih

theorem discover (directory : Text) :
    Reads (Settings.discover disk.recorded directory) (Settings.discover disk directory).run [] :=
  firstFile _

theorem scripts (depth : Nat) (directory : Text) :
    Reads (Files.scripts disk.recorded depth directory) (Files.scripts disk depth directory).run
      [] := by
  induction depth generalizing directory with
  | zero => exact Reads.pure _
  | succ depth ih =>
    refine (Reads.pure (disk.entries directory).run).after ?_
    have hnone : ((disk.entries directory).run.flatMap fun _ => ([] : List Text)) = [] := by simp
    refine Reads.map (hnone ▸ Reads.mapM (fun ⟨name, kind⟩ => ?_) _) _
    cases kind with
    | file => exact Reads.pure _
    | directory =>
      dsimp only
      split
      · exact Reads.pure _
      · exact ih _
    | other => exact Reads.pure _

theorem named (p : Text) : Reads (Files.named disk.recorded p) (Files.named disk p).run [] := by
  refine (Reads.pure (disk.kind p).run).after ?_
  rw [Files.named_eq]
  cases (disk.kind p).run with
  | none => exact Reads.pure _
  | some kind =>
    cases kind with
    | file => exact Reads.pure _
    | directory => exact (scripts _ p).map _
    | other => exact Reads.pure _

theorem gather (ps : List Text) :
    Reads (Files.gather disk.recorded ps) (Files.gather disk ps).run [] := by
  induction ps with
  | nil => exact Reads.pure _
  | cons p ps ih =>
    refine (named p).after ?_
    rw [Files.gather_cons]
    cases (Files.named disk p).run with
    | none => exact Reads.pure _
    | some fs => exact ih.map _

/-- Gathering files reads none. -/
theorem collect (ps : List Text) :
    Reads (Files.collect disk.recorded ps) (Files.collect disk ps).run [] :=
  (gather ps).map _

theorem load (p : Text) :
    ∃ ps ⊆ [p], Reads (Settings.load disk.recorded p) (Settings.load disk p).run ps := by
  rw [Command.load_eq, Settings.load]
  cases SettingsFormat.ofPath? p with
  | none => exact ⟨[], List.nil_subset _, Reads.pure _⟩
  | some f =>
    refine ⟨[p] ++ [], by simp, (read p).bind ?_⟩
    cases (disk.read p).run with
    | error e => exact Reads.pure _
    | ok t => exact Reads.pure _

end Reads

namespace Command

open Reads

variable {disk : Disk Id}

/-! ## Runs -/

theorem reads_origin (o : Options) : Reads (o.origin disk.recorded) (o.origin disk).run [] := by
  rw [Options.origin_eq, Options.origin]
  cases o.config with
  | some p => exact Reads.pure _
  | none =>
    refine (Reads.pure disk.workingDirectory.run).after ((discover _).after ?_)
    dsimp only
    cases (Settings.discover disk disk.workingDirectory.run).run with
    | none => exact Reads.pure _
    | some p => exact Reads.pure _

theorem reads_settings (origin : SettingsOrigin) :
    ∃ ps ⊆ origin.file?.toList,
      Reads (origin.settings disk.recorded) (origin.settings disk).run ps := by
  cases origin with
  | given p => exact load p
  | found p => exact load p
  | recommended => exact ⟨[], List.nil_subset _, Reads.pure _⟩

theorem reads_prepare (disk : Disk Id) (o : Options) :
    ∃ ps ⊆ (o.origin disk).run.file?.toList,
      Reads (o.prepare disk.recorded) (o.prepare disk).run ps := by
  obtain ⟨ps, hps, hsettings⟩ := reads_settings (o.origin disk).run
  refine ⟨ps ++ [], by simpa using hps, (reads_origin o).after (hsettings.bind ?_)⟩
  rw [Options.prepare_eq]
  cases ((o.origin disk).run.settings disk).run with
  | error e => exact Reads.pure _
  | ok s =>
    dsimp only
    cases Linter.ofSettings s with
    | error e => exact Reads.pure _
    | ok linter =>
      refine (collect o.searched).after ?_
      cases (Files.collect disk o.searched).run with
      | error p => exact Reads.pure _
      | ok files => exact Reads.pure _

theorem lintFile_eq (linter : Linter) (p : Text) : (lintFile disk linter p).run =
    match (disk.read p).run with
    | .error e => ⟨p, .error (.unreadable e)⟩
    | .ok text => match Model.ofText text p with
      | .error e => ⟨p, .error (.malformed e)⟩
      | .ok m => ⟨p, .ok (linter.lint m)⟩ := rfl

theorem reads_lintFile (linter : Linter) (p : Text) :
    Reads (lintFile disk.recorded linter p) (lintFile disk linter p).run [p] := by
  have hnone : [p] ++ [] = [p] := List.append_nil [p]
  refine hnone ▸ (read p).bind ?_
  rw [lintFile_eq]
  cases (disk.read p).run with
  | error e => exact Reads.pure _
  | ok text =>
    dsimp only
    cases Model.ofText text p with
    | error e => exact Reads.pure _
    | ok m => exact Reads.pure _

theorem reads_reports (j : Job) :
    Reads (j.reports disk.recorded) (j.reports disk).run j.files := by
  have hfiles : j.files.flatMap (fun p => [p]) = j.files := by simp
  exact hfiles ▸ Reads.mapM (reads_lintFile j.linter) j.files

/-- The files that are looked at: those that were gathered, if the run can begin. -/
def Preparation.files (start : Preparation) : List Text :=
  match start.job with
  | .ok j => j.files
  | .error _ => []

theorem lint_eq (disk : Disk Id) (terminal : Bool) (o : Options) : (o.lint disk terminal).run =
    match (o.prepare disk).run.job with
    | .error e => .ofError e (o.prepare disk).run.log
    | .ok j => .ofReports o terminal (o.prepare disk).run.log (j.reports disk).run := rfl

theorem reads_lint (disk : Disk Id) (o : Options) (terminal : Bool) :
    ∃ ps ⊆ (o.origin disk).run.file?.toList, Reads (o.lint disk.recorded terminal)
      (o.lint disk terminal).run (ps ++ (o.prepare disk).run.files) := by
  obtain ⟨ps, hps, hprepare⟩ := reads_prepare disk o
  refine ⟨ps, hps, hprepare.bind ?_⟩
  rw [lint_eq, Preparation.files]
  cases (o.prepare disk).run.job with
  | error e => exact Reads.pure _
  | ok j =>
    exact (reads_reports j).map _

/-- A run that is asked to lint does nothing else, whatever becomes of its log. -/
theorem run_eq {console : Console} {arguments : List Text} {o : Options}
    (h : AsksToLint console arguments)
    (request : Request.ofArguments arguments = .ok (.lint o)) :
    ∃ (log : Output → List LogRecord) (format : Output → LogFormat),
      ∀ {m : Type → Type} [Monad m] (disk : Disk m), run disk console arguments = do
        let out ← o.lint disk console.terminal
        return { out with log := log out, logFormat := format out } := by
  cases hlogging : console.logging with
  | true =>
    obtain ⟨f, hf⟩ := h.logFilter o request hlogging
    refine ⟨fun out => out.log.filter f.admits, fun _ => o.logFormat.getD .compact, ?_⟩
    intro m _ disk
    simp only [run, request, Options.run, hlogging, hf, ↓reduceIte]
    rfl
  | false =>
    refine ⟨fun _ => [], (·.logFormat), ?_⟩
    intro m _ disk
    simp [run, request, Options.run, hlogging]

section

variable {console : Console} {arguments : List Text}

theorem reads_run_of_malformed (disk : Disk Id) (console : Console) {e : UsageError}
    (h : Request.ofArguments arguments = .error e) :
    Reads (run disk.recorded console arguments) (run disk console arguments).run [] := by
  rw [run, run, h]
  exact Reads.pure _

theorem reads_run_of_request (h : AsksToLint console arguments) (disk : Disk Id) {o : Options}
    (request : Request.ofArguments arguments = .ok (.lint o)) :
    ∃ ps ⊆ (o.origin disk).run.file?.toList, Reads (run disk.recorded console arguments)
      (run disk console arguments).run (ps ++ (o.prepare disk).run.files) := by
  obtain ⟨log, format, hrun⟩ := run_eq h request
  obtain ⟨ps, hps, hlint⟩ := reads_lint disk o console.terminal
  refine ⟨ps, hps, ?_⟩
  rw [hrun, hrun]
  exact hlint.map _

/-- The files that a run reads, in order. -/
def readFiles (disk : Disk Id) (console : Console) (arguments : List Text) : List Text :=
  ((run disk.recorded console arguments).run []).run.2

theorem readFiles_of_reads {out : Output} {ps : List Text}
    (h : Reads (run disk.recorded console arguments) out ps) :
    readFiles disk console arguments = ps := by
  rw [readFiles, h []]
  exact List.nil_append ps

/-- Keeping the list changes nothing about a run. -/
theorem reads_run (h : AsksToLint console arguments) (disk : Disk Id) :
    Reads (run disk.recorded console arguments) (run disk console arguments).run
      (readFiles disk console arguments) := by
  cases hrequest : Request.ofArguments arguments with
  | error e =>
    have hreads := reads_run_of_malformed disk console hrequest
    rwa [readFiles_of_reads hreads]
  | ok r =>
    obtain ⟨o, rfl⟩ := h.request r hrequest
    obtain ⟨ps, -, hreads⟩ := reads_run_of_request h disk hrequest
    rwa [readFiles_of_reads hreads]

end

end Command

end ScriptStyle
