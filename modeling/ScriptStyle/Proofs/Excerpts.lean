import ScriptStyle.Proofs.Faults
import ScriptStyle.Proofs.Lines

/-!
# Excerpts of damaged text

A report of damage shows the characters that the damage covers, and of many characters only the
first ones with dots behind them. Whether there are too many is decided by their bytes, but what is
kept is a number of characters. For ASCII this is the same. Other characters have more bytes, so
some excerpts get their dots although there was room for all of the characters, or although none of
them was left out.

`Tree.damage_excerpts` says of every report what it shows and when this is an excerpt as it should
be (`Damage.IsExcerpt`).
-/

namespace ScriptStyle

namespace Text

theorem length_le_byteSize (t : Text) : t.length ≤ byteSize t := by
  induction t with
  | nil => exact Nat.le_refl 0
  | cons c t ih =>
    have hpos := c.utf8Size_pos
    rw [List.length_cons, byteSize]
    omega

theorem eq_of_byteSize_eq {before before' after after' : Text}
    (h : before ++ after = before' ++ after') (hsize : byteSize before = byteSize before') :
    before = before' := by
  have hnil {t u : Text} (h : byteSize (t ++ u) = byteSize t) : u = [] := by
    rw [byteSize_append] at h
    refine Classical.not_not.1 fun hne => ?_
    have := byteSize_pos hne
    omega
  rcases List.append_eq_append_iff.1 h with ⟨between, rfl, -⟩ | ⟨between, rfl, -⟩
  · rw [hnil hsize.symm, List.append_nil]
  · rw [hnil hsize, List.append_nil]

/-- Some characters of a text stand between two offsets. -/
def IsSlice (t : Text) (start stop : Nat) (slice : Text) : Prop :=
  ∃ before after, t = before ++ slice ++ after ∧ byteSize before = start ∧
    byteSize (before ++ slice) = stop

/-- The offsets tell the characters between them. -/
theorem IsSlice.unique {t slice slice' : Text} {start stop : Nat} (h : t.IsSlice start stop slice)
    (h' : t.IsSlice start stop slice') : slice = slice' := by
  obtain ⟨before, after, rfl, rfl, rfl⟩ := h
  obtain ⟨before', after', htext, hstart, hstop⟩ := h'
  have hboth := eq_of_byteSize_eq htext hstop.symm
  obtain rfl : before = before' := eq_of_byteSize_eq hboth hstart.symm
  exact List.append_cancel_left hboth

end Text

open Text (byteSize byteSize_append)

namespace Damage

/-! ## What excerpts should be -/

/-- What stands behind the characters that are kept. -/
def dots : Text := "...".toList

/-- Some text is an excerpt of characters as it should be. -/
structure IsExcerpt (chars context : Text) : Prop where
  /-- It is all of the characters, or dots stand for some that are left out at the end. -/
  all_or_cut : context = chars ∨
    ∃ kept rest, rest ≠ [] ∧ chars = kept ++ rest ∧ context = kept ++ dots
  /-- It has not too many characters. -/
  length_le : context.length ≤ contextLimit
  /-- It is not longer than what it is an excerpt of, in characters or in bytes. -/
  not_longer : context.length ≤ chars.length ∧ byteSize context ≤ byteSize chars
  /-- Characters for which there is room are shown as they are. -/
  eq_of_length_le : chars.length ≤ contextLimit → context = chars

variable {chars : Text}

theorem IsExcerpt.self (h : chars.length ≤ contextLimit) : IsExcerpt chars chars where
  all_or_cut := .inl rfl
  length_le := h
  not_longer := ⟨Nat.le_refl _, Nat.le_refl _⟩
  eq_of_length_le _ := rfl

/-- Dots in place of more than three characters save characters and bytes. -/
theorem IsExcerpt.cut (h : contextLimit < chars.length) :
    IsExcerpt chars (chars.take (contextLimit - 3) ++ dots) := by
  have hlimit : contextLimit = 50 := rfl
  have hdots : dots.length = 3 ∧ byteSize dots = 3 := by decide
  have hkept : (chars.take (contextLimit - 3)).length = contextLimit - 3 :=
    List.length_take_of_le (by omega)
  have hrest : (chars.drop (contextLimit - 3)).length = chars.length - (contextLimit - 3) :=
    List.length_drop
  have hbytes := Text.length_le_byteSize (chars.drop (contextLimit - 3))
  have hsplit : chars.take (contextLimit - 3) ++ chars.drop (contextLimit - 3) = chars :=
    List.take_append_drop _ _
  have hsize := congrArg byteSize hsplit
  rw [byteSize_append] at hsize
  constructor
  case all_or_cut =>
    refine .inr ⟨_, _, ?_, hsplit.symm, rfl⟩
    rw [← List.length_pos_iff]
    omega
  case length_le =>
    rw [List.length_append, hkept]
    omega
  case not_longer =>
    rw [List.length_append, byteSize_append, hkept]
    omega
  case eq_of_length_le =>
    intro hle
    omega

/-- What is shown is an excerpt as it should be if all of the characters are shown, by their bytes
or by chance, or if there is no room for them. -/
theorem isExcerpt_shown_iff : IsExcerpt chars (shown chars) ↔
    byteSize chars ≤ contextLimit ∨ contextLimit < chars.length ∨
      chars.drop (contextLimit - 3) = dots := by
  have hlength := Text.length_le_byteSize chars
  by_cases hsize : byteSize chars ≤ contextLimit
  · rw [shown, if_neg (Nat.not_lt.2 hsize)]
    exact iff_of_true (.self (hlength.trans hsize)) (.inl hsize)
  · have hshown : shown chars = chars.take (contextLimit - 3) ++ dots :=
      if_pos (Nat.lt_of_not_le hsize)
    rw [hshown]
    constructor
    · intro h
      rcases Nat.lt_or_ge contextLimit chars.length with hlt | hle
      · exact .inr (.inl hlt)
      · have hsame : chars.take (contextLimit - 3) ++ chars.drop (contextLimit - 3) =
            chars.take (contextLimit - 3) ++ dots := by
          rw [h.eq_of_length_le hle, List.take_append_drop]
        exact .inr (.inr (List.append_cancel_left hsame))
    · rintro (hle | hlt | hdrop)
      · exact absurd hle hsize
      · exact .cut hlt
      · -- The last three characters are dots themselves.
        have hdots := congrArg List.length hdrop
        have hlimit : contextLimit = 50 := rfl
        have hthree : dots.length = 3 := rfl
        rw [List.length_drop] at hdots
        rw [← hdrop, List.take_append_drop]
        exact .self (by omega)

theorem length_shown_le (chars : Text) : (shown chars).length ≤ contextLimit := by
  have hlength := Text.length_le_byteSize chars
  rw [shown]
  split
  · rw [List.length_append, List.length_take]
    show min 47 chars.length + 3 ≤ 50
    omega
  · omega

end Damage

namespace Tree

/-! ## The reports of a tree -/

/-- A part of a tree has its characters behind the text before it. -/
theorem exists_after_of_part? {t u : Tree} {address : List Nat} (h : t.part? address = some u) :
    ∃ after, t.text = t.textBefore address ++ u.text ++ after := by
  induction address generalizing t with
  | nil =>
    obtain rfl : t = u := Option.some.inj h
    exact ⟨[], by simp [textBefore]⟩
  | cons i address ih =>
    obtain ⟨v, hv, hu⟩ := Option.bind_eq_some_iff.1 h
    obtain ⟨after, hafter⟩ := ih hu
    cases t with
    | leaf kind chars => cases hv
    | missing spelling => cases hv
    | node k ts =>
      change ts[i]? = some v at hv
      obtain ⟨hi, rfl⟩ := List.getElem?_eq_some_iff.1 hv
      have hsplit : ts.take i ++ ts[i] :: ts.drop (i + 1) = ts := by
        rw [← List.drop_eq_getElem_cons hi, List.take_append_drop]
      have htext : (node k ts).text =
          textOf (ts.take i) ++ (ts[i].text ++ textOf (ts.drop (i + 1))) := by
        rw [← textOf_cons, ← textOf_append, hsplit, text_node]
      refine ⟨after ++ textOf (ts.drop (i + 1)), ?_⟩
      rw [htext, hafter, textBefore, children, hv, Option.elim_some]
      simp only [List.append_assoc]

/-- A report shows the characters between its offsets. -/
theorem exists_isSlice_of_mem {t : Tree} {d : Damage} (hd : d ∈ t.damage) :
    ∃ chars, Text.IsSlice t.text d.start d.stop chars ∧ d.context = Damage.shown chars := by
  obtain ⟨address, -, u, hu, rfl⟩ := exists_of_forall₂_of_mem t.reports_damage hd
  obtain ⟨after, hafter⟩ := exists_after_of_part? hu
  exact ⟨u.text, ⟨_, after, hafter, rfl, rfl⟩, rfl⟩

/-- The offsets of a report of damage tell the characters that it covers. It shows all of them if
they have no more bytes than the limit, else the first ones with dots behind them, and never more
characters than the limit. This is an excerpt as it should be if the characters have no more bytes
than the limit, if there are more of them than that, or if the ones that are left out are just three
dots; all other characters get dots although there is room for them. -/
theorem damage_excerpts {t : Tree} {d : Damage} (hd : d ∈ t.damage) :
    ∃ chars, (∀ slice, Text.IsSlice t.text d.start d.stop slice ↔ slice = chars) ∧
      d.context = (if byteSize chars ≤ Damage.contextLimit then chars
        else chars.take (Damage.contextLimit - 3) ++ Damage.dots) ∧
      d.context.length ≤ Damage.contextLimit ∧
      (Damage.IsExcerpt chars d.context ↔
        byteSize chars ≤ Damage.contextLimit ∨ Damage.contextLimit < chars.length ∨
          chars.drop (Damage.contextLimit - 3) = Damage.dots) := by
  obtain ⟨chars, hslice, hcontext⟩ := exists_isSlice_of_mem hd
  refine ⟨chars, ?_, ?_, ?_, ?_⟩
  · intro slice
    constructor
    · intro h
      exact h.unique hslice
    · rintro rfl
      exact hslice
  · rw [hcontext, Damage.shown]
    by_cases hsize : byteSize chars ≤ Damage.contextLimit
    · rw [if_pos hsize, if_neg (Nat.not_lt.2 hsize)]
    · rw [if_neg hsize, if_pos (Nat.lt_of_not_le hsize)]
      rfl
  · rw [hcontext]
    exact Damage.length_shown_le chars
  · rw [hcontext]
    exact Damage.isExcerpt_shown_iff

/-- A call that is not closed, with a name of so many characters of two bytes as its argument. -/
def openCall (n : Nat) : Text := ['f', 'o', 'o', '('] ++ List.replicate n 'é'

/-- Of 54 characters the first 47 are kept. -/
theorem damage_excerpts_openCall : ∃ d ∈ (ofText (openCall 50)).damage,
    d.context = openCall 43 ++ Damage.dots ∧
    ∃ chars, chars.length = 54 ∧ Damage.IsExcerpt chars d.context := by
  have hdamage : (ofText (openCall 50)).damage = [⟨0, 104, Position.origin,
      openCall 43 ++ Damage.dots, Damage.wrapMessage⟩] := by decide +kernel
  have hmem : ⟨0, 104, Position.origin, openCall 43 ++ Damage.dots, Damage.wrapMessage⟩ ∈
      (ofText (openCall 50)).damage := by
    rw [hdamage]
    exact List.mem_singleton_self _
  have hslice : Text.IsSlice (ofText (openCall 50)).text 0 104 (openCall 50) :=
    ⟨[], [], by decide +kernel, by decide, by decide⟩
  obtain ⟨chars, hchars, -, -, hiff⟩ := damage_excerpts hmem
  obtain rfl := (hchars _).1 hslice
  exact ⟨_, hmem, rfl, _, by decide, hiff.2 (.inr (.inl (by decide)))⟩

/-- A text of 28 characters is damaged as a whole, and what is shown of it is longer than it is. -/
theorem damage_openCall :
    (ofText (openCall 24)).damage = [⟨0, 52, Position.origin, openCall 24 ++ Damage.dots,
      Damage.wrapMessage⟩] ∧
    Text.IsSlice (ofText (openCall 24)).text 0 52 (openCall 24) ∧ (openCall 24).length = 28 ∧
    ¬ Damage.IsExcerpt (openCall 24) (openCall 24 ++ Damage.dots) := by
  refine ⟨by decide +kernel, ⟨[], [], by decide +kernel, by decide, by decide⟩, by decide, ?_⟩
  intro h
  exact absurd h.not_longer.1 (by decide)

end Tree

end ScriptStyle
