import ScriptStyle.Lint.Naming
import ScriptStyle.Lint.Spacing
import ScriptStyle.Proofs.Members
import ScriptStyle.Proofs.RoundTrip

/-!
# Settings given in part

The settings are a record of which three fields are sections, and a section is a record again. Every
object that gives some of the settings is read as the defaults but for these, whatever else is in it
and in its sections (`ofText_members`). A section that is left out is as good as one without
members, and a part of the settings depends on nothing that is said of another one.
-/

namespace ScriptStyle.Settings

open Json Json.Input

/-! ## The sections -/

/-- The switches of the checks. -/
def checkerFields : Fields (Option Check) CheckerToggles where
  name
    | none => "all"
    | some c => c.name
  Value _ := Bool
  value
    | none => (·.all)
    | some .missingSemicolons => (·.missingSemicolons)
    | some .emptyLines => (·.emptyLines)
    | some .spacesStyle => (·.spacesStyle)
    | some .correctNaming => (·.correctNaming)
  set
    | none => fun b s => { s with all := b }
    | some .missingSemicolons => fun b s => { s with missingSemicolons := b }
    | some .emptyLines => fun b s => { s with emptyLines := b }
    | some .spacesStyle => fun b s => { s with spacesStyle := b }
    | some .correctNaming => fun b s => { s with correctNaming := b }
  Spells _ b t := Written (.bool b) t
  default := {}
  name_injective := by
    rintro (_ | c) (_ | c') h
    · rfl
    · cases c' <;> exact absurd h (by decide)
    · cases c <;> exact absurd h (by decide)
    · cases c <;> cases c' <;> first | rfl | exact absurd h (by decide)
  value_set := by rintro (_ | _ | _ | _ | _) b s <;> rfl
  value_set_of_ne := by
    rintro (_ | _ | _ | _ | _) (_ | _ | _ | _ | _) b s h <;> first | rfl | exact absurd rfl h
  ext := by
    rintro ⟨⟩ ⟨⟩ h
    have hall := h none
    have hchecks := fun c => h (some c)
    have hsemicolons := hchecks .missingSemicolons
    have hlines := hchecks .emptyLines
    have hspaces := hchecks .spacesStyle
    have hnaming := hchecks .correctNaming
    simp_all

/-- The lists of operators. -/
def spacesFields : Fields Side SpacesStyle where
  name
    | .before => "before"
    | .noBefore => "no-before"
    | .after => "after"
    | .noAfter => "no-after"
  Value _ := List Text
  value := Side.operators
  set
    | .before => fun ts s => { s with before := ts }
    | .noBefore => fun ts s => { s with noBefore := ts }
    | .after => fun ts s => { s with after := ts }
    | .noAfter => fun ts s => { s with noAfter := ts }
  Spells _ ts t := Written (.array (ts.map .text)) t
  default := {}
  name_injective := by
    intro i j h
    cases i <;> cases j <;> first | rfl | exact absurd h (by decide)
  value_set i _ _ := by cases i <;> rfl
  value_set_of_ne i j _ _ h := by cases i <;> cases j <;> first | rfl | exact absurd rfl h
  ext := by
    rintro ⟨⟩ ⟨⟩ h
    have hbefore := h .before
    have hnoBefore := h .noBefore
    have hafter := h .after
    have hnoAfter := h .noAfter
    simp_all [Side.operators]

/-- The patterns of names. -/
def namingFields : Fields NameKind NamingPatterns where
  name
    | .variableName => "js-variable-pattern"
    | .constantName => "js-const-variable-pattern"
    | .functionName => "js-function-pattern"
    | .className => "js-class-pattern"
  Value _ := Option Text
  value := NameKind.setting
  set
    | .variableName => fun o s => { s with variableNames := o }
    | .constantName => fun o s => { s with constantNames := o }
    | .functionName => fun o s => { s with functionNames := o }
    | .className => fun o s => { s with classNames := o }
  Spells _ o t := Written (.ofOption .text o) t
  default := {}
  name_injective := by
    intro i j h
    cases i <;> cases j <;> first | rfl | exact absurd h (by decide)
  value_set i _ _ := by cases i <;> rfl
  value_set_of_ne i j _ _ h := by cases i <;> cases j <;> first | rfl | exact absurd rfl h
  ext := by
    rintro ⟨⟩ ⟨⟩ h
    have hvariables := h .variableName
    have hconstants := h .constantName
    have hfunctions := h .functionName
    have hclasses := h .className
    simp_all [NameKind.setting]

theorem readBy_checkers : checkerFields.ReadBy readSlot checkerSlots where
  takes {i v t} h := by
    rcases i with _ | _ | _ | _ | _ <;> exact ⟨.flag _, rfl, takes_flag _ h⟩
  names := ⟨none :: Check.all.map some, rfl⟩

theorem readBy_spaces : spacesFields.ReadBy readSlot spacesSlots where
  takes {i v t} h := by cases i <;> exact ⟨.texts _, rfl, takes_listed _ h⟩
  names := ⟨Side.all, rfl⟩

theorem readBy_naming : namingFields.ReadBy readSlot namingSlots where
  takes {i v t} h := by cases i <;> exact ⟨.text _, rfl, takes_pattern _ h⟩
  names := ⟨NameKind.all, rfl⟩

/-! ## The whole -/

/-- What a part of the settings is. -/
def Part.Value : Part → Type
  | .checkers => CheckerToggles
  | .maxCodeLines => Nat
  | .spacesStyle => SpacesStyle
  | .namingPatterns => NamingPatterns

/-- The parts of the settings. Three of them are sections, which may again be given in part. -/
def partFields : Fields Part Settings where
  name
    | .checkers => "checkers"
    | .maxCodeLines => "max-code-line-without-empty-lines"
    | .spacesStyle => "spaces-style"
    | .namingPatterns => "naming-patterns"
  Value := Part.Value
  value
    | .checkers => (·.checkers)
    | .maxCodeLines => (·.maxCodeLines)
    | .spacesStyle => (·.spacesStyle)
    | .namingPatterns => (·.namingPatterns)
  set
    | .checkers => fun v s => { s with checkers := v }
    | .maxCodeLines => fun v s => { s with maxCodeLines := v }
    | .spacesStyle => fun v s => { s with spacesStyle := v }
    | .namingPatterns => fun v s => { s with namingPatterns := v }
  Spells
    | .checkers => checkerFields.Describes
    | .maxCodeLines => fun (n : Nat) t => n < UInt64.size ∧ Written (.number n) t
    | .spacesStyle => spacesFields.Describes
    | .namingPatterns => namingFields.Describes
  default := Settings.default
  name_injective := by
    intro i j h
    cases i <;> cases j <;> first | rfl | exact absurd h (by decide)
  value_set i _ _ := by cases i <;> rfl
  value_set_of_ne i j _ _ h := by cases i <;> cases j <;> first | rfl | exact absurd rfl h
  ext := by
    rintro ⟨⟩ ⟨⟩ h
    have hcheckers := h .checkers
    have hlines := h .maxCodeLines
    have hspaces := h .spacesStyle
    have hnaming := h .namingPatterns
    simp_all

theorem readBy_parts : partFields.ReadBy readPart parts where
  takes {i v t} h := by
    cases i with
    | checkers =>
      have htakes := readBy_checkers.takes_of_describes h "CheckerToggles"
      exact ⟨.checkers, rfl, htakes.map (partFields.set .checkers)⟩
    | maxCodeLines =>
      have htakes := takes_natural h.1 h.2
      exact ⟨.maxCodeLines, rfl, htakes.map (partFields.set .maxCodeLines)⟩
    | spacesStyle =>
      have htakes := readBy_spaces.takes_of_describes h "SpacesStyle"
      exact ⟨.spacesStyle, rfl, htakes.map (partFields.set .spacesStyle)⟩
    | namingPatterns =>
      have htakes := readBy_naming.takes_of_describes h "NamingPatterns"
      exact ⟨.namingPatterns, rfl, htakes.map (partFields.set .namingPatterns)⟩
  names := ⟨[.checkers, .maxCodeLines, .spacesStyle, .namingPatterns], rfl⟩

/-- A section that is left out and one without members are the same. -/
theorem value_of_leavesOut {ms : Members} {s : Settings} (hs : partFields.Gives ms s)
    {part : Part} (h : LeavesOut ms (partFields.name part)) :
    partFields.value part s = partFields.value part Settings.default := by
  have hpart := hs part
  cases hgiven : given? ms (partFields.name part) with
  | none => rwa [hgiven] at hpart
  | some t =>
    have hempty := h t hgiven
    rw [hgiven] at hpart
    cases part with
    | checkers => exact readBy_checkers.eq_default hempty hpart
    | maxCodeLines =>
      -- An object is no number, so the limit is not left out in this way.
      obtain ⟨-, hwritten⟩ := hpart
      obtain ⟨c, cs, hc, hdigit, -⟩ := decimal_eq_cons s.maxCodeLines
      obtain ⟨u, rfl⟩ : ∃ u, t = openBrace :: u := by
        cases hempty
        exact ⟨_, rfl⟩
      have hopen : openBrace :: u = c :: cs := by
        rw [← hc]
        exact hwritten.eq_decimal
      obtain ⟨rfl, -⟩ := List.cons.inj hopen
      exact absurd hdigit (by decide)
    | spacesStyle => exact readBy_spaces.eq_default hempty hpart
    | namingPatterns => exact readBy_naming.eq_default hempty hpart

/-- What a part of the settings is depends on nothing but this part. -/
theorem value_eq_of_giveAlike {ms ms' : Members} {s s' : Settings} (hs : partFields.Gives ms s)
    (hs' : partFields.Gives ms' s') {part : Part} (h : GiveAlike ms ms' (partFields.name part)) :
    partFields.value part s' = partFields.value part s := by
  rcases h with hgiven | ⟨hms, hms'⟩
  · have hpart := hs part
    have hpart' := hs' part
    rw [hgiven] at hpart'
    cases hname : given? ms (partFields.name part) with
    | none =>
      rw [hname] at hpart hpart'
      exact hpart'.trans hpart.symm
    | some t =>
      rw [hname] at hpart hpart'
      exact readBy_parts.spells_unique hpart' hpart
  · rw [value_of_leavesOut hs hms, value_of_leavesOut hs' hms']

theorem exists_ofText {ms : Members} {t b b' : Text} (ht : IsObject ms t)
    (hms : partFields.Admits ms) (hb : IsBlankText b) (hb' : IsBlankText b') (path : Text) :
    ∃ s, ofText (b ++ (t ++ b')) .json path = .ok s ∧ partFields.Gives ms s := by
  obtain ⟨s, htakes, hs⟩ := readBy_parts.exists_takes ht hms "LintConfig"
  obtain ⟨ht⟩ := ht
  exact ⟨s, ofText_of_takes htakes hb hb' path, hs⟩

/-- An object that gives each setting once at most is read as the defaults but for what it gives,
and nothing else in it matters. For any other such object, the parts that both give alike are the
same. -/
theorem ofText_members {ms : Members} {t b b' : Text} (ht : IsObject ms t)
    (hms : partFields.Admits ms) (hb : IsBlankText b) (hb' : IsBlankText b') (path : Text) :
    ∃ s, ofText (b ++ (t ++ b')) .json path = .ok s ∧
      (∀ s', partFields.Gives ms s' ↔ s' = s) ∧
      ∀ {ms' : Members} {t' c c' : Text}, IsObject ms' t' → partFields.Admits ms' →
        IsBlankText c → IsBlankText c' → ∃ s', ofText (c ++ (t' ++ c')) .json path = .ok s' ∧
          ∀ part, GiveAlike ms ms' (partFields.name part) →
            partFields.value part s' = partFields.value part s := by
  obtain ⟨s, htext, hs⟩ := exists_ofText ht hms hb hb' path
  refine ⟨s, htext, fun s' => ⟨fun hs' => readBy_parts.gives_unique hs' hs, ?_⟩, ?_⟩
  · rintro rfl
    exact hs
  · intro ms' t' c c' ht' hms' hc hc'
    obtain ⟨s', htext', hs'⟩ := exists_ofText ht' hms' hc hc' path
    exact ⟨s', htext', fun part => value_eq_of_giveAlike hs hs'⟩

/-- A section in which one switch is given, behind a name that means nothing. -/
def oneSwitch : Members := [("y".toList, "null".toList), ("all".toList, "true".toList)]

theorem describes_oneSwitch :
    checkerFields.Describes { all := true } "\x7b\"y\":null,\"all\":true\x7d".toList := by
  have hobject : IsObject oneSwitch "\x7b\"y\":null,\"all\":true\x7d".toList :=
    .braces (.member (.first .nil) (quoted_quote _) .nil .nil rfl
      (.member (.later .nil .nil) (quoted_quote _) .nil .nil rfl (.close .nil)))
  refine ⟨oneSwitch, hobject, ⟨Fields.once_of_nodup (by decide), ?_, ?_⟩, ?_⟩
  · intro m hm i hi
    rcases List.mem_pair.mp hm with rfl | rfl
    · rcases i with _ | _ | _ | _ | _ <;> exact absurd hi (by decide)
    · exact ⟨true, .bool true⟩
  · intro m hm hk
    rcases List.mem_pair.mp hm with rfl | rfl
    · exact .null
    · exact absurd rfl (hk none)
  · rintro (_ | _ | _ | _ | _)
    · exact Written.bool true
    all_goals rfl

/-- A limit and a section with one switch, behind a name that means nothing with a value that cannot
be made sense of. -/
def limitAndSwitch : Members := [
  ("x".toList, "[-1.5e3,\"\\ud800\"]".toList),
  ("max-code-line-without-empty-lines".toList, ['0']),
  ("checkers".toList, "\x7b\"y\":null,\"all\":true\x7d".toList)]

theorem isValue_senseless : IsValue "[-1.5e3,\"\\ud800\"]".toList := by
  have hdigit {c : Char} (hc : c.isDigit = true) : AreDigits [c] :=
    ⟨List.cons_ne_nil c [], List.forall_mem_singleton.mpr hc⟩
  have hwhole : IsWhole ['1'] := .digits (hdigit rfl) (by decide)
  have hfraction : IsFraction ['.', '5'] := .digits (hdigit rfl)
  have hexponent : IsExponent ['e', '3'] := .digits (.inl rfl) .missing (hdigit rfl)
  have hnumber : IsUnsigned "1.5e3".toList := .parts hwhole hfraction hexponent
  have hhalf : IsQuotation "\"\\ud800\"".toList :=
    .quotes (.cons (.code (.digits rfl rfl rfl rfl)) .nil)
  exact .array (.item (.first .nil) (.negative hnumber)
    (.item (.later .nil .nil) (.quotation hhalf) (.close .nil)))

theorem admits_limitAndSwitch : partFields.Admits limitAndSwitch where
  once := Fields.once_of_nodup (by decide)
  typed m hm i hi := by
    simp only [limitAndSwitch, List.mem_cons, List.not_mem_nil, or_false] at hm
    rcases hm with rfl | rfl | rfl
    · cases i <;> exact absurd hi (by decide)
    · cases i
      case maxCodeLines => exact ⟨(0 : Nat), by decide, .number 0⟩
      all_goals exact absurd hi (by decide)
    · cases i
      case checkers => exact ⟨_, describes_oneSwitch⟩
      all_goals exact absurd hi (by decide)
  others m hm hk := by
    simp only [limitAndSwitch, List.mem_cons, List.not_mem_nil, or_false] at hm
    rcases hm with rfl | rfl | rfl
    · exact isValue_senseless
    · exact absurd rfl (hk .maxCodeLines)
    · exact absurd rfl (hk .checkers)

/-- What is left out has its default, and a limit of zero is no default. -/
theorem ofText_members_limitAndSwitch :
    ofText ("\x7b\"x\":[-1.5e3,\"\\ud800\"],\"max-code-line-without-empty-lines\":0,".toList ++
        "\"checkers\":\x7b\"y\":null,\"all\":true\x7d\x7d".toList) .json [] =
      .ok { Settings.default with checkers := { all := true }, maxCodeLines := 0 } := by
  have hobject : IsObject limitAndSwitch
      ("\x7b\"x\":[-1.5e3,\"\\ud800\"],\"max-code-line-without-empty-lines\":0,".toList ++
        "\"checkers\":\x7b\"y\":null,\"all\":true\x7d\x7d".toList) :=
    .braces (.member (.first .nil) (quoted_quote _) .nil .nil rfl
      (.member (.later .nil .nil) (quoted_quote _) .nil .nil rfl
        (.member (.later .nil .nil) (quoted_quote _) .nil .nil rfl (.close .nil))))
  have hgives : partFields.Gives limitAndSwitch
      { Settings.default with checkers := { all := true }, maxCodeLines := 0 } := by
    rintro (_ | _ | _ | _)
    · exact describes_oneSwitch
    · have hzero : 0 < UInt64.size := by decide
      exact ⟨hzero, Written.number 0⟩
    · rfl
    · rfl
  obtain ⟨s, htext, hs, -⟩ := ofText_members hobject admits_limitAndSwitch .nil .nil []
  rw [← (hs _).mp hgives, List.nil_append, List.append_nil] at htext
  exact htext

end ScriptStyle.Settings
