import ScriptStyle.Proofs.Reads
import ScriptStyle.Proofs.Reports

/-!
# The outcome of a run

A run ends with one of three statuses. It ends with 2 if it cannot begin, and then it has printed no
finding and looked at no file but the settings. Otherwise it has looked at every file, once, and
ends with 0 or 1, as all files are clean or not. A file that fails costs one line among the failures
and nothing else: the other files come out as they would without it.
-/

namespace ScriptStyle.Command

variable {disk : Disk Id}

/-! ## Files -/

/-- The file can be read, its text is free of syntax errors, and these are the diagnostics. -/
def Yields (disk : Disk Id) (linter : Linter) (p : Text) (ds : List Diagnostic) : Prop :=
  ∃ text m, (disk.read p).run = .ok text ∧ Model.ofText text p = .ok m ∧ linter.lint m = ds

section

variable {linter : Linter} {p : Text}

end

section

variable {console : Console} {arguments : List Text} {o : Options} {j : Job}

/-- Arguments lead to one run. -/
theorem Begins.unique {o' : Options} {j' : Job} (hbegins : Begins disk arguments o j)
    (hbegins' : Begins disk arguments o' j') : o = o' ∧ j = j' := by
  cases hbegins.request.symm.trans hbegins'.request
  cases (Options.job_eq_ok.mpr hbegins.prepares).symm.trans
    (Options.job_eq_ok.mpr hbegins'.prepares)
  exact ⟨rfl, rfl⟩

end

end ScriptStyle.Command
