import ScriptStyle.Proofs.ReadBack
import ScriptStyle.Settings.File

/-!
# Settings written and read back

Settings that are written in JSON are read back as they were, however their text is laid out. Every
name under which a setting is written is the name of the slot that it is read into, and no setting
is left out, so that nothing falls back to its default. It follows that different settings are
written differently.
-/

namespace ScriptStyle.Settings

open Json Json.Input

/-! ## Slots -/

section

variable {σ : Type} {t : Text}

theorem takes_flag (set : Bool → σ → σ) {b : Bool} (h : Written (.bool b) t) :
    Takes (readSlot (.flag set)) t (set b) :=
  (takes_bool h).map set

theorem takes_listed (set : List Text → σ → σ) {ts : List Text}
    (h : Written (.array (ts.map .text)) t) : Takes (readSlot (.texts set)) t (set ts) :=
  (takes_texts h).map set

theorem takes_pattern (set : Option Text → σ → σ) {o : Option Text}
    (h : Written (.ofOption .text o) t) : Takes (readSlot (.text set)) t (set o) :=
  (takes_optionalText h).map set

variable (slots : List (String × Slot σ)) {k : Text}

theorem effect_flag {set : Bool → σ → σ} (h : slot? slots k = some (.flag set)) (b : Bool) :
    Effect readSlot slots Written (k, .bool b) (set b) :=
  .slot h fun _ => takes_flag set

theorem effect_texts {set : List Text → σ → σ} (h : slot? slots k = some (.texts set))
    (ts : List Text) : Effect readSlot slots Written (k, .array (ts.map .text)) (set ts) :=
  .slot h fun _ => takes_listed set

theorem effect_text {set : Option Text → σ → σ} (h : slot? slots k = some (.text set))
    (o : Option Text) : Effect readSlot slots Written (k, .ofOption .text o) (set o) :=
  .slot h fun _ => takes_pattern set

end

/-! ## Sections -/

theorem nodup_checkerSlots : (checkerSlots.map (·.1.toList)).Nodup := by decide

theorem nodup_spacesSlots : (spacesSlots.map (·.1.toList)).Nodup := by decide

theorem nodup_namingSlots : (namingSlots.map (·.1.toList)).Nodup := by decide

theorem nodup_parts : (parts.map (·.1.toList)).Nodup := by decide

theorem takes_checkers {c : CheckerToggles} {t : Text} (h : Written (checkersValue c) t) :
    Takes (record readSlot "CheckerToggles" checkerSlots {}) t c := by
  cases h with
  | object h =>
    exact takes_record h (.cons (effect_flag checkerSlots rfl c.all)
      (.cons (effect_flag checkerSlots rfl c.missingSemicolons)
        (.cons (effect_flag checkerSlots rfl c.emptyLines)
          (.cons (effect_flag checkerSlots rfl c.spacesStyle)
            (.cons (effect_flag checkerSlots rfl c.correctNaming) .nil)))))
      (pairwise_of_nodup nodup_checkerSlots) "CheckerToggles" {}

theorem takes_spaces {s : SpacesStyle} {t : Text} (h : Written (spacesValue s) t) :
    Takes (record readSlot "SpacesStyle" spacesSlots {}) t s := by
  cases h with
  | object h =>
    exact takes_record h (.cons (effect_texts spacesSlots rfl s.before)
      (.cons (effect_texts spacesSlots rfl s.noBefore)
        (.cons (effect_texts spacesSlots rfl s.after)
          (.cons (effect_texts spacesSlots rfl s.noAfter) .nil))))
      (pairwise_of_nodup nodup_spacesSlots) "SpacesStyle" {}

theorem takes_naming {n : NamingPatterns} {t : Text} (h : Written (namingValue n) t) :
    Takes (record readSlot "NamingPatterns" namingSlots {}) t n := by
  cases h with
  | object h =>
    exact takes_record h (.cons (effect_text namingSlots rfl n.variableNames)
      (.cons (effect_text namingSlots rfl n.constantNames)
        (.cons (effect_text namingSlots rfl n.functionNames)
          (.cons (effect_text namingSlots rfl n.classNames) .nil))))
      (pairwise_of_nodup nodup_namingSlots) "NamingPatterns" {}

/-! ## Settings -/

theorem takes_settings {s : Settings} (hs : s.maxCodeLines < UInt64.size) {t : Text}
    (h : Written s.value t) : Takes (record readPart "LintConfig" parts Settings.default) t s := by
  cases h with
  | object h =>
    have hcheckers : Effect readPart parts Written
        ("checkers".toList, checkersValue s.checkers)
        fun s' : Settings => { s' with checkers := s.checkers } := by
      refine .slot (r := .checkers) rfl fun t ht => ?_
      exact (takes_checkers ht).map fun v (s' : Settings) => { s' with checkers := v }
    have hlines : Effect readPart parts Written
        ("max-code-line-without-empty-lines".toList, .number s.maxCodeLines)
        fun s' : Settings => { s' with maxCodeLines := s.maxCodeLines } := by
      refine .slot (r := .maxCodeLines) rfl fun t ht => ?_
      exact (takes_natural hs ht).map fun v (s' : Settings) => { s' with maxCodeLines := v }
    have hspaces : Effect readPart parts Written
        ("spaces-style".toList, spacesValue s.spacesStyle)
        fun s' : Settings => { s' with spacesStyle := s.spacesStyle } := by
      refine .slot (r := .spacesStyle) rfl fun t ht => ?_
      exact (takes_spaces ht).map fun v (s' : Settings) => { s' with spacesStyle := v }
    have hnaming : Effect readPart parts Written
        ("naming-patterns".toList, namingValue s.namingPatterns)
        fun s' : Settings => { s' with namingPatterns := s.namingPatterns } := by
      refine .slot (r := .namingPatterns) rfl fun t ht => ?_
      exact (takes_naming ht).map fun v (s' : Settings) => { s' with namingPatterns := v }
    exact takes_record h (.cons hcheckers (.cons hlines (.cons hspaces (.cons hnaming .nil))))
      (pairwise_of_nodup nodup_parts) "LintConfig" Settings.default

/-- An object that is read as settings holds these settings, whatever blanks are around it. -/
theorem ofText_of_takes {s : Settings} {u b b' : Text}
    (h : Takes (record readPart "LintConfig" parts Settings.default) (openBrace :: u) s)
    (hb : IsBlankText b) (hb' : IsBlankText b') (path : Text) :
    ofText (b ++ (openBrace :: u ++ b')) .json path = .ok s := by
  have hblank : SettingsFormat.isBlank .json (b ++ (openBrace :: u ++ b')) = false := by
    have hopen : Characters.isWhiteSpace openBrace = false := by decide
    simp [SettingsFormat.isBlank, hopen]
  have hends : EndsNumber b' := by
    cases b' with
    | nil => simp [EndsNumber]
    | cons c b' =>
      have hends : EndsNumber (c :: b' ++ []) := endsNumber_blank hb'
      rwa [List.append_nil] at hends
  have hrecord := h .origin b b' hb hends
  have hjson : ofJson (b ++ (openBrace :: u ++ b')) = .ok s := by
    simp only [ofJson, Input.ofText, hrecord, finish_blank hb', bind, Except.bind, pure,
      Except.pure]
  simp only [ofText, hblank, hjson, Bool.false_eq_true, ↓reduceIte]

/-- However settings are laid out, and whatever blanks are around them, they are read back. -/
theorem ofText_written {s : Settings} (hs : s.maxCodeLines < UInt64.size) {t b b' : Text}
    (h : Written s.value t) (hb : IsBlankText b) (hb' : IsBlankText b') (path : Text) :
    ofText (b ++ (t ++ b')) .json path = .ok s := by
  have htakes := takes_settings hs h
  cases h with
  | object h => exact ofText_of_takes htakes hb hb' path

/-- Texts from which different settings are read are different. -/
theorem ne_of_ofText {s s' : Settings} {t t' path : Text} (h : ofText t .json path = .ok s)
    (h' : ofText t' .json path = .ok s') (hne : s' ≠ s) : t' ≠ t := by
  rintro rfl
  exact hne (Except.ok.inj (h'.symm.trans h))

/-- Settings are read back from both ways in which they are written, and different settings are
written differently. -/
theorem ofText_value (s : Settings) (hs : s.maxCodeLines < UInt64.size) (path : Text) :
    ofText (compact s.value) .json path = .ok s ∧
    ofText (indented 0 s.value) .json path = .ok s ∧
    ∀ s' : Settings, s'.maxCodeLines < UInt64.size → s' ≠ s →
      compact s'.value ≠ compact s.value ∧ indented 0 s'.value ≠ indented 0 s.value := by
  have hcompact (s : Settings) (hs : s.maxCodeLines < UInt64.size) :
      ofText (compact s.value) .json path = .ok s := by
    simpa using ofText_written hs (written_compact s.value) .nil .nil path
  have hindented (s : Settings) (hs : s.maxCodeLines < UInt64.size) :
      ofText (indented 0 s.value) .json path = .ok s := by
    simpa using ofText_written hs (written_indented 0 s.value) .nil .nil path
  refine ⟨hcompact s hs, hindented s hs, ?_⟩
  intro s' hs' hne
  have hcompact' := ne_of_ofText (hcompact s hs) (hcompact s' hs') hne
  have hindented' := ne_of_ofText (hindented s hs) (hindented s' hs') hne
  exact ⟨hcompact', hindented'⟩

/-- Settings with all kinds of characters that are not written as they are. -/
def unusual : Settings where
  checkers := ⟨false, true, false, true, false⟩
  maxCodeLines := UInt64.size - 1
  spacesStyle := ⟨[['"'], ['\\', '/'], []], [], ["=>".toList, "=>".toList], [['\n', '\x00', 'é']]⟩
  namingPatterns := ⟨some "^\\w+\t$".toList, none, some [], some ['😀', '\x7f', '\x1f']⟩

theorem ofText_value_unusual :
    unusual.maxCodeLines < UInt64.size ∧ recommended.maxCodeLines < UInt64.size ∧
    ofText (compact unusual.value) .json [] = .ok unusual ∧
    ofText (indented 0 unusual.value) .json [] = .ok unusual ∧
    compact recommended.value ≠ compact unusual.value ∧
    indented 0 recommended.value ≠ indented 0 unusual.value := by
  have hunusual : unusual.maxCodeLines < UInt64.size := by decide
  have hrecommended : recommended.maxCodeLines < UInt64.size := by decide
  obtain ⟨hcompact, hindented, hforms⟩ := ofText_value unusual hunusual []
  have hne : recommended ≠ unusual := by decide
  exact ⟨hunusual, hrecommended, hcompact, hindented, hforms recommended hrecommended hne⟩

end ScriptStyle.Settings
