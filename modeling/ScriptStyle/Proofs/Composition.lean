import ScriptStyle.Proofs.Naming
import ScriptStyle.Proofs.Variables

/-!
# Linters are made of checks

A linter runs some checks one after the other. Each of them sees nothing but the source and its own
settings, so a run is the runs of its checks alone, put together in their order
(`Linter.lint_flatten`). For the same reason the settings of a check that is off are never looked at,
and building a linter fails for no other reason than the names: `Checker.build_congr` says what a
checker reads of the settings, and all else follows from it.
-/

namespace ScriptStyle

namespace CheckerToggles

/-- The switch of a check, whatever the switch for all of them says. -/
def switch (t : CheckerToggles) : Check → Bool
  | .missingSemicolons => t.missingSemicolons
  | .emptyLines => t.emptyLines
  | .spacesStyle => t.spacesStyle
  | .correctNaming => t.correctNaming

/-- Only the switch of one check is on. -/
def only (c : Check) : CheckerToggles where
  all := false
  missingSemicolons := c = .missingSemicolons
  emptyLines := c = .emptyLines
  spacesStyle := c = .spacesStyle
  correctNaming := c = .correctNaming

theorem isOn_eq (t : CheckerToggles) (c : Check) : t.isOn c = (t.all || t.switch c) := by
  cases c <;> rfl

end CheckerToggles

namespace Settings

variable {s s' : Settings} {c : Check}

/-- The same settings with one check on and all others off. -/
def only (s : Settings) (c : Check) : Settings := { s with checkers := .only c }

/-- Two settings say the same about what a check looks for. -/
def AgreesOn (s s' : Settings) : Check → Prop
  | .missingSemicolons => True
  | .emptyLines => s.maxCodeLines = s'.maxCodeLines
  | .spacesStyle => s.spacesStyle = s'.spacesStyle
  | .correctNaming => s.namingPatterns = s'.namingPatterns

@[simp] theorem enabled_only (s : Settings) (c : Check) : (s.only c).enabled = [c] := by
  cases c <;> rfl

theorem agreesOn_only (s : Settings) (c : Check) : s.AgreesOn (s.only c) c := by
  cases c with
  | missingSemicolons => trivial
  | emptyLines => rfl
  | spacesStyle => rfl
  | correctNaming => rfl

theorem mem_enabled : c ∈ s.enabled ↔ s.checkers.isOn c = true := by
  rw [enabled, List.mem_filter, and_iff_right]
  cases c <;> simp [Check.all]

/-- The checks that run are those with a switch that is on, and all of them if the switch for all
is. -/
theorem enabled_eq (s : Settings) :
    s.enabled = Check.all.filter fun c => s.checkers.all || s.checkers.switch c :=
  List.filter_congr fun c _ => s.checkers.isOn_eq c

/-- Settings with the same checks on have the same checks to run. -/
theorem enabled_congr (h : ∀ c, s.checkers.isOn c = s'.checkers.isOn c) :
    s.enabled = s'.enabled :=
  List.filter_congr fun c _ => h c

end Settings

variable {s s' : Settings} {c : Check} {m : Model}

/-- A checker reads nothing of the settings but what its check looks for. -/
theorem Checker.build_congr (h : s.AgreesOn s' c) : Checker.build s c = Checker.build s' c := by
  cases c with
  | missingSemicolons => rfl
  | emptyLines =>
    have hwidth : s.maxCodeLines = s'.maxCodeLines := h
    rw [build, build, hwidth]
  | spacesStyle =>
    have hstyle : s.spacesStyle = s'.spacesStyle := h
    rw [build, build, hstyle]
  | correctNaming =>
    have hpatterns : s.namingPatterns = s'.namingPatterns := h
    rw [build, build, hpatterns]

theorem Checker.mapM_build_congr {cs : List Check} (h : ∀ c ∈ cs, s.AgreesOn s' c) :
    cs.mapM (Checker.build s) = cs.mapM (Checker.build s') := by
  induction cs with
  | nil => rfl
  | cons c cs ih =>
    have hhead := Checker.build_congr (h c List.mem_cons_self)
    have htail := ih fun d hd => h d (List.mem_cons_of_mem c hd)
    rw [List.mapM_cons, List.mapM_cons, hhead, htail]

/-- With only one check on, its checker is the whole linter. -/
theorem Model.lint_only (m : Model) (s : Settings) (c : Check) :
    m.lint (s.only c) = (Checker.build s c).map (·.check m) := by
  rw [Checker.build_congr (s.agreesOn_only c), lint, Linter.ofSettings, s.enabled_only,
    List.mapM_cons, List.mapM_nil]
  cases Checker.build (s.only c) c with
  | error e => rfl
  | ok k =>
    show Except.ok ([k].flatMap (·.check m)) = Except.ok (k.check m)
    rw [List.flatMap_singleton]

theorem Model.lint_only_correctNaming_eq_error {e : PatternError} :
    m.lint (s.only .correctNaming) = .error e ↔ NameRules.ofSettings s.namingPatterns = .error e := by
  rw [Model.lint_only, Checker.build]
  cases NameRules.ofSettings s.namingPatterns <;> simp [Except.map]

namespace Linter

/-- The warnings of a linter are those of its checks alone, one check after the other. -/
theorem lint_flatten {l : Linter} (h : ofSettings s = .ok l) (m : Model) :
    ∃ parts, List.Forall₂ (fun c part => m.lint (s.only c) = .ok part) s.enabled parts ∧
      l.lint m = parts.flatten := by
  obtain ⟨ks, hks, rfl⟩ := exists_of_map_eq_ok h
  refine ⟨ks.map (·.check m), ?_, by rw [lint, List.flatMap_def]⟩
  rw [List.forall₂_map_right_iff]
  refine (forall₂_of_mapM_eq_ok hks).imp fun c k hk => ?_
  rw [Model.lint_only, hk]
  rfl

/-- Settings that agree on the checks that are on, and have the same checks on, make the same
linter. -/
theorem ofSettings_congr (hon : ∀ c, s.checkers.isOn c = s'.checkers.isOn c)
    (h : ∀ c, s.checkers.isOn c = true → s.AgreesOn s' c) : ofSettings s = ofSettings s' := by
  have hbuild : s.enabled.mapM (Checker.build s) = s.enabled.mapM (Checker.build s') :=
    Checker.mapM_build_congr fun c hc => h c (Settings.mem_enabled.1 hc)
  rw [ofSettings, ofSettings, hbuild, Settings.enabled_congr hon]

/-- Checks compose independently. What a linter reports is what its checks report alone, put together
in the order of the checks that are on. Building it fails with an error if and only if names are
checked and checking them alone fails with this error. And settings for checks that are off change
nothing. -/
theorem lint_independent (m : Model) (s : Settings) :
    (∀ l, ofSettings s = .ok l → ∃ parts,
      List.Forall₂ (fun c part => m.lint (s.only c) = .ok part)
        (([.missingSemicolons, .emptyLines, .spacesStyle, .correctNaming] : List Check).filter
          fun c => s.checkers.all || s.checkers.switch c) parts ∧
      l.lint m = parts.flatten) ∧
    (∀ e, ofSettings s = .error e ↔
      (s.checkers.all || s.checkers.correctNaming) = true ∧
        m.lint (s.only .correctNaming) = .error e) ∧
    ∀ s' : Settings, (∀ c, s.checkers.isOn c = s'.checkers.isOn c) →
      (∀ c, s.checkers.isOn c = true → s.AgreesOn s' c) →
      ofSettings s = ofSettings s' ∧ m.lint s = m.lint s' := by
  refine ⟨?_, ?_, ?_⟩
  · intro l hl
    obtain ⟨parts, hparts, hflatten⟩ := lint_flatten hl m
    rw [s.enabled_eq] at hparts
    exact ⟨parts, hparts, hflatten⟩
  · intro e
    rw [ofSettings_eq_error, Settings.mem_enabled, Model.lint_only_correctNaming_eq_error]
    rfl
  · intro s' hon h
    have hsame : ofSettings s = ofSettings s' := ofSettings_congr hon h
    exact ⟨hsame, by rw [Model.lint, Model.lint, hsame]⟩

/-- Semicolons and names are checked. -/
def semicolonsAndNames : Settings where
  checkers := { missingSemicolons := true, correctNaming := true }
  maxCodeLines := 9
  spacesStyle := {}
  namingPatterns := {}

/-- Only semicolons are checked, and the pattern for variables cannot be read. -/
def semicolonsOnly : Settings where
  checkers := { missingSemicolons := true }
  maxCodeLines := 9
  spacesStyle := {}
  namingPatterns := { variableNames := some ['('] }

/-- A declaration is reported by both checks, the semicolon first, and a pattern that cannot be read
does not matter where names are not checked. -/
theorem lint_independent_declaration :
    ∃ m l l', Model.ofText ['v', 'a', 'r', ' ', 'a'] [] = .ok m ∧
      ofSettings semicolonsAndNames = .ok l ∧
      l.lint m = [.warning .missingSemicolons Semicolons.message [] 1,
        .warning .correctNaming Naming.varMessage [] 1] ∧
      (∃ parts, List.Forall₂ (fun c part => m.lint (semicolonsAndNames.only c) = .ok part)
        [.missingSemicolons, .correctNaming] parts ∧ l.lint m = parts.flatten) ∧
      NameRules.ofSettings semicolonsOnly.namingPatterns = .error ⟨.variableName, ['(']⟩ ∧
      ofSettings semicolonsOnly = .ok l' ∧
      m.lint semicolonsOnly = m.lint (semicolonsAndNames.only .missingSemicolons) := by
  have hon (c : Check) : semicolonsOnly.checkers.isOn c =
      (semicolonsAndNames.only .missingSemicolons).checkers.isOn c := by
    cases c <;> rfl
  have hagree (c : Check) (hc : semicolonsOnly.checkers.isOn c = true) :
      semicolonsOnly.AgreesOn (semicolonsAndNames.only .missingSemicolons) c := by
    cases c with
    | missingSemicolons => trivial
    | _ => cases hc
  have hsame := (lint_independent (Model.ofTree (Tree.ofText ['v', 'a', 'r', ' ', 'a']) [])
    semicolonsOnly).2.2 (semicolonsAndNames.only .missingSemicolons) hon hagree
  exact ⟨_, _, _, rfl, rfl, by decide +kernel, (lint_independent _ semicolonsAndNames).1 _ rfl,
    rfl, rfl, hsame.2⟩

end Linter

end ScriptStyle
