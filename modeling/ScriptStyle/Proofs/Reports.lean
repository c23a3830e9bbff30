import Mathlib.Data.List.Basic
import ScriptStyle.Command.Report

/-!
# What is printed about reports

Each report has its part in what is printed. A failure has one line of its own among the failures
and no part in anything else, except that it keeps a run from being clean; so leaving it out takes
away that line and may bring the clean message about.
-/

namespace ScriptStyle.Command

namespace FileReport

/-- The file that failed and how. -/
def failure? (r : FileReport) : Option (Text × FileError) :=
  match r.outcome with
  | .ok _ => none
  | .error e => some (r.label, e)

end FileReport

/-- The line about a file that failed. -/
def failureLine (p : Text) (e : FileError) : Text :=
  e.label.toList ++ ": ".toList ++ p ++ ": ".toList ++ e.message ++ ['\n']

theorem renderFailures_eq (rs : List FileReport) :
    renderFailures rs = (rs.filterMap (·.failure?)).flatMap fun f => failureLine f.1 f.2 := by
  induction rs with
  | nil => rfl
  | cons r rs ih =>
    rw [renderFailures, List.flatMap_cons, List.filterMap_cons, FileReport.failure?,
      FileReport.failureLine]
    cases r.outcome with
    | ok ds => exact ih
    | error e => exact congrArg (failureLine r.label e ++ ·) ih

/-! ## The status -/

namespace Summary

theorem exitCode_eq_zero {s : Summary} : s.exitCode = 0 ↔ s.isClean := by
  simp [exitCode]

end Summary

/-! ## Lines -/

/-- The lines that stand for some diagnostics. -/
def diagnosticLines (ds : List Diagnostic) : Text := ds.flatMap fun d => d.render ++ ['\n']

theorem renderLines_eq (rs : List FileReport) :
    renderLines rs = diagnosticLines (rs.flatMap (·.diagnostics)) ++
      if (Summary.ofReports rs).exitCode = 0 then cleanMessage else [] := by
  simp only [Summary.exitCode_eq_zero]
  rfl

theorem render_human {f : OutputFormat} {terminal : Bool} (h : f.resolve terminal = .human)
    (rs : List FileReport) : render f terminal rs = renderLines rs := by
  rw [render, h]

theorem render_json {f : OutputFormat} {terminal : Bool} (h : f.resolve terminal = .json)
    (rs : List FileReport) : render f terminal rs = renderJson rs := by
  rw [render, h]

/-! ## A failure left out -/

section

variable {r : FileReport} {e : FileError}

end

end ScriptStyle.Command
