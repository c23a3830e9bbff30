import ScriptStyle.Command.Run
import ScriptStyle.Proofs.Reports
import ScriptStyle.Proofs.Unambiguous

/-!
# Lines and documents report the same

Diagnostics are printed as lines or as a document, and each way picks from the reports on its own
what it prints. `ofReports_formats` says that both pick the same: the files that were linted, each
with its diagnostics, come in the order of the reports, and nothing else of a run depends on the
format. A document can be read in one way only, so nothing that it lists is lost in it.
-/

namespace ScriptStyle

open Json (Value Written)

/-! ## Listed files -/

theorem Severity.name_injective : Function.Injective Severity.name := by
  intro s s' h
  cases s <;> cases s' <;> first | rfl | exact absurd h (by decide)

theorem Check.name_injective : Function.Injective Check.name := by
  intro c c' h
  cases c <;> cases c' <;> first | rfl | exact absurd h (by decide)

theorem LineBase.name_injective : Function.Injective LineBase.name := by
  intro b b' h
  cases b <;> cases b' <;> first | rfl | exact absurd h (by decide)

/-- Nothing of a diagnostic is left out of its object. -/
theorem Diagnostic.value_injective : Function.Injective Diagnostic.value := by
  rintro ⟨s, c, message, filename, line, b⟩ ⟨s', c', message', filename', line', b'⟩ h
  simp only [value, Value.word, Value.object.injEq, List.cons.injEq, Prod.mk.injEq,
    Value.text.injEq, Value.number.injEq, true_and, and_true, String.toList_inj] at h
  obtain ⟨hs, hc, rfl, rfl, rfl, hb⟩ := h
  rw [Severity.name_injective hs, Check.name_injective hc, LineBase.name_injective hb]

namespace Command

/-- A file and its diagnostics, if it was linted. -/
def FileReport.listed? (r : FileReport) : Option (Text × List Diagnostic) :=
  match r.outcome with
  | .ok ds => some (r.label, ds)
  | .error _ => none

/-- A file and its diagnostics as an object. -/
def fileValue (f : Text × List Diagnostic) : Value :=
  .object [
    ("file".toList, .text f.1),
    ("diagnostics".toList, .array (f.2.map (·.value)))]

theorem fileValue_injective : Function.Injective fileValue := by
  rintro ⟨label, ds⟩ ⟨label', ds'⟩ h
  simp only [fileValue, Value.object.injEq, List.cons.injEq, Prod.mk.injEq, Value.text.injEq,
    Value.array.injEq, true_and, and_true] at h
  obtain ⟨rfl, hds⟩ := h
  rw [Diagnostic.value_injective.list_map hds]

/-! ## What each way picks -/

section

variable (rs : List FileReport)

theorem flatMap_diagnostics :
    rs.flatMap (·.diagnostics) = (rs.filterMap (·.listed?)).flatMap (·.2) := by
  induction rs with
  | nil => rfl
  | cons r rs ih =>
    rw [List.flatMap_cons, List.filterMap_cons, FileReport.diagnostics, FileReport.listed?]
    cases r.outcome with
    | ok ds => exact congrArg (ds ++ ·) ih
    | error e => exact ih

theorem map_value_filter :
    (rs.filter (!·.isFailure)).map (·.value) = (rs.filterMap (·.listed?)).map fileValue := by
  induction rs with
  | nil => rfl
  | cons r rs ih =>
    rw [List.filter_cons, List.filterMap_cons, FileReport.isFailure, FileReport.listed?]
    cases h : r.outcome with
    | ok ds =>
      have hvalue : r.value = fileValue (r.label, ds) := by
        rw [FileReport.value, FileReport.diagnostics, h, fileValue]
      exact congrArg₂ List.cons hvalue ih
    | error e => exact ih

theorem length_filter_isFailure :
    (rs.filter (·.isFailure)).length = (rs.filterMap (·.failure?)).length := by
  induction rs with
  | nil => rfl
  | cons r rs ih =>
    rw [List.filter_cons, List.filterMap_cons, FileReport.isFailure, FileReport.failure?]
    cases r.outcome with
    | ok ds => exact ih
    | error e => exact congrArg (· + 1) ih

/-- Totals count the diagnostics of the files that were linted, and the files that were not. -/
theorem ofReports_eq : Summary.ofReports rs =
    ⟨((rs.filterMap (·.listed?)).flatMap (·.2)).length, (rs.filterMap (·.failure?)).length⟩ := by
  rw [Summary.ofReports, flatMap_diagnostics, length_filter_isFailure]

/-- A document lists the files that were linted and no other ones. -/
theorem exists_document : ∃ document, renderJson rs = document ++ ['\n'] ∧
    ∀ listed, Written (.array (listed.map fileValue)) document ↔
      listed = rs.filterMap (·.listed?) := by
  refine ⟨_, rfl, fun listed => ?_⟩
  rw [map_value_filter]
  have hwritten := Json.written_indented 0 (.array ((rs.filterMap (·.listed?)).map fileValue))
  constructor
  · intro h
    exact fileValue_injective.list_map (Value.array.inj (h.unique hwritten))
  · rintro rfl
    exact hwritten

theorem renderLines_listed : renderLines rs =
    if (rs.filterMap (·.listed?)).flatMap (·.2) = [] ∧ rs.filterMap (·.failure?) = []
    then cleanMessage else diagnosticLines ((rs.filterMap (·.listed?)).flatMap (·.2)) := by
  have hclean : (Summary.ofReports rs).exitCode = 0 ↔
      (rs.filterMap (·.listed?)).flatMap (·.2) = [] ∧ rs.filterMap (·.failure?) = [] := by
    rw [Summary.exitCode_eq_zero, ofReports_eq]
    simp only [Summary.isClean, Bool.and_eq_true, decide_eq_true_eq, List.length_eq_zero_iff]
  rw [renderLines_eq, flatMap_diagnostics]
  simp only [hclean]
  split
  next h =>
    rw [h.1]
    rfl
  next => exact List.append_nil _

end

/-- Whether diagnostics are printed as lines or as a document, a run ends with the same status, the
same failures and the same totals, and reports the same diagnostics: the document lists the files
that were linted in the order of the reports, each with all its diagnostics, and can be read in no
other way; the lines are those of the diagnostics in this list, or say that there are none and no
file failed; and the totals are the length of this list and of that of the failures. -/
theorem ofReports_formats {o o' : Options} {terminal terminal' : Bool}
    (h : (o.output.getD .auto).resolve terminal = .human)
    (h' : (o'.output.getD .auto).resolve terminal' = .json) (log : List LogRecord)
    (rs : List FileReport) :
    (Output.ofReports o' terminal' log rs).exitCode =
      (Output.ofReports o terminal log rs).exitCode ∧
    (Output.ofReports o' terminal' log rs).stderr = (Output.ofReports o terminal log rs).stderr ∧
    (Output.ofReports o' terminal' log rs).log = (Output.ofReports o terminal log rs).log ∧
    ∃ listed failures,
      listed = rs.filterMap (·.listed?) ∧ failures = rs.filterMap (·.failure?) ∧
      (∃ document, (Output.ofReports o' terminal' log rs).stdout = document ++ ['\n'] ∧
        ∀ listed', Written (.array (listed'.map fileValue)) document ↔ listed' = listed) ∧
      ((Output.ofReports o terminal log rs).stdout =
        if listed.flatMap (·.2) = [] ∧ failures = [] then cleanMessage
        else diagnosticLines (listed.flatMap (·.2))) ∧
      (Output.ofReports o terminal log rs).stderr =
        (failures.flatMap fun f => failureLine f.1 f.2) ∧
      Summary.ofReports rs = ⟨(listed.flatMap (·.2)).length, failures.length⟩ := by
  refine ⟨rfl, rfl, rfl, _, _, rfl, rfl, ?_, ?_, renderFailures_eq rs, ofReports_eq rs⟩
  · obtain ⟨document, hdocument, hlisted⟩ := exists_document rs
    exact ⟨document, (render_json h' rs).trans hdocument, hlisted⟩
  · exact (render_human h rs).trans (renderLines_listed rs)

/-- A clean file, a file with a finding, and one that cannot be read between them. -/
def mixedReports : List FileReport := [
  ⟨"a.js".toList, .ok []⟩,
  ⟨"b.js".toList, .error (.unreadable .notText)⟩,
  ⟨"c.js".toList, .ok [.warning .emptyLines "m".toList "c.js".toList 3]⟩]

theorem ofReports_formats_mixedReports :
    ∃ document, (Output.ofReports { output := some .json } true [] mixedReports).stdout =
        document ++ ['\n'] ∧
      Written (.array ([("a.js".toList, []),
        ("c.js".toList, [.warning .emptyLines "m".toList "c.js".toList 3])].map fileValue))
        document ∧
      (Output.ofReports {} true [] mixedReports).stdout = "Warning: c.js line 3: m\n".toList ∧
      (Output.ofReports {} true [] mixedReports).stderr =
        "Reading error: b.js: failed to read file: stream did not contain valid UTF-8\n".toList ∧
      Summary.ofReports mixedReports = ⟨1, 1⟩ := by
  have hlines : (({} : Options).output.getD .auto).resolve true = .human := rfl
  have hjson : (({ output := some .json } : Options).output.getD .auto).resolve true = .json := rfl
  obtain ⟨-, -, -, listed, failures, rfl, rfl, ⟨document, hdocument, hlisted⟩, hstdout, hstderr,
    hsummary⟩ := ofReports_formats hlines hjson [] mixedReports
  exact ⟨document, hdocument, (hlisted _).mpr rfl, hstdout, hstderr, hsummary⟩

end Command

end ScriptStyle
