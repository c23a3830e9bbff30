import Mathlib.Data.List.Induction
import ScriptStyle.Source.Model

/-!
# Places and bytes

A place after some characters of a text is a line and a column, and a check asks for the byte at a
place. `Text.getElem?_lines` finds the line of the place: it is made of the last line of what stands
before and the first line of what follows. From it come the two statements that the checks rest on:
`Model.byteAt?_advance` and `Model.byteBefore?_advance` say that the bytes around a place are the
bytes of the text next to it, unless a line feed or an end of the text stands there.

Places come in the order of the text: no character leads back, and each leads to a later place.
-/

namespace ScriptStyle

namespace Position

/-! ## The order of places -/

variable {p q r : Position}

theorem eq_iff : p = q ↔ p.line = q.line ∧ p.column = q.column := by
  cases p
  cases q
  simp

theorem le_iff : p.le q = true ↔ p.line < q.line ∨ p.line = q.line ∧ p.column ≤ q.column := by
  simp [le]

theorem le_refl (p : Position) : p.le p = true := by
  simp [le]

theorem le_trans (h : p.le q = true) (h' : q.le r = true) : p.le r = true := by
  rw [le_iff] at *
  omega

theorem le_next (p : Position) (c : Char) : p.le (p.next c) = true := by
  rw [le_iff, next]
  split
  · exact .inl (Nat.lt_succ_self _)
  · exact .inr ⟨rfl, Nat.le_add_right _ _⟩

theorem not_next_le (p : Position) (c : Char) : (p.next c).le p = false := by
  have hpos := c.utf8Size_pos
  rw [Bool.eq_false_iff, Ne, le_iff, next]
  split
  · simp
  · simp
    omega

theorem le_advance (p : Position) (cs : List Char) : p.le (p.advance cs) = true := by
  induction cs generalizing p with
  | nil => exact le_refl p
  | cons c cs ih => exact le_trans (le_next p c) (ih _)

/-- Behind at least one character stands a later place. -/
theorem not_advance_le (p : Position) {cs : List Char} (hcs : cs ≠ []) :
    (p.advance cs).le p = false := by
  obtain ⟨c, cs, rfl⟩ := List.exists_cons_of_ne_nil hcs
  rw [Bool.eq_false_iff]
  intro h
  have hback := le_trans (le_advance (p.next c) cs) h
  rw [not_next_le] at hback
  cases hback

end Position

namespace Text

/-- The byte of a line feed. -/
def lineFeed : UInt8 := 10

/-- The characters before the first line feed. -/
def firstLine (t : Text) : Text := t.takeWhile (· ≠ '\n')

/-- The characters behind the last line feed. -/
def lastLine (t : Text) : Text := t.foldl (fun line c => if c = '\n' then [] else line ++ [c]) []

/-! ## Lines -/

theorem lastLine_concat (t : Text) (c : Char) :
    lastLine (t ++ [c]) = if c = '\n' then [] else lastLine t ++ [c] := by
  simp [lastLine]

theorem lines_cons_of_ne {c : Char} (hc : c ≠ '\n') (t : Text) :
    lines (c :: t) = (lines t).modifyHead (c :: ·) := by
  rw [lines, if_neg hc]
  cases h : lines t with
  | nil => exact absurd h (lines_ne_nil t)
  | cons l ls => rfl

theorem head?_lines (t : Text) : (lines t).head? = some (firstLine t) := by
  induction t with
  | nil => rfl
  | cons c t ih =>
    by_cases hc : c = '\n'
    · simp [lines, firstLine, hc]
    · rw [lines_cons_of_ne hc, List.head?_modifyHead, ih]
      simp [firstLine, hc]

theorem modifyHead_nil_append (ls : List Text) : ls.modifyHead (([] : Text) ++ ·) = ls := by
  cases ls <;> rfl

/-- The lines from the one on in which some characters end. -/
theorem drop_lines (before rest : Text) :
    (lines (before ++ rest)).drop (before.count '\n') =
      (lines rest).modifyHead (lastLine before ++ ·) := by
  induction before using List.reverseRecOn generalizing rest with
  | nil => exact (modifyHead_nil_append _).symm
  | append_singleton before c ih =>
    rw [List.append_assoc, List.singleton_append, List.count_append, lastLine_concat]
    by_cases hc : c = '\n'
    · subst hc
      rw [List.count_singleton_self, ← List.drop_drop, ih, if_pos rfl, modifyHead_nil_append]
      simp [lines]
    · rw [List.count_singleton, if_neg (by simpa using hc), Nat.add_zero, ih, lines_cons_of_ne hc,
        List.modifyHead_modifyHead]
      simp [hc, Function.comp_def]

/-- The line in which some characters end. -/
theorem getElem?_lines (before rest : Text) :
    (lines (before ++ rest))[before.count '\n']? = some (lastLine before ++ firstLine rest) := by
  have h := congrArg List.head? (drop_lines before rest)
  rwa [List.head?_drop, List.head?_modifyHead, head?_lines] at h

/-! ## Places -/

/-- The place behind some characters: its line counts their line feeds, its column the bytes behind
the last of them. -/
theorem advance_origin (t : Text) :
    Position.origin.advance t = ⟨t.count '\n' + 1, byteSize (lastLine t)⟩ := by
  induction t using List.reverseRecOn with
  | nil => rfl
  | append_singleton t c ih =>
    rw [Position.advance_append, ih, lastLine_concat, Position.advance_cons, Position.advance_nil,
      Position.next, List.count_append, List.count_singleton]
    by_cases hc : c = '\n'
    · simp [hc, byteSize]
    · simp [hc, ← length_bytes]

theorem lineIndex_advance_origin (t : Text) :
    (Position.origin.advance t).lineIndex = t.count '\n' := by
  simp [Position.lineIndex, advance_origin]

/-! ## Bytes -/

theorem bytes_eq_nil {t : Text} : bytes t = [] ↔ t = [] := by
  cases t with
  | nil => simp
  | cons c t =>
    have := c.utf8Size_pos
    rw [← List.length_eq_zero_iff, length_bytes, byteSize]
    simp
    omega

/-- Every byte of a character outside ASCII is at least 128, so only a line feed has its byte. -/
theorem lineFeed_mem_utf8EncodeChar {c : Char} :
    lineFeed ∈ String.utf8EncodeChar c ↔ c = '\n' := by
  constructor
  · intro h
    have hv : c.val.toNat < 0x110000 := by
      have := c.valid
      simp only [UInt32.isValidChar, Nat.isValidChar] at this
      omega
    rw [Char.ext_iff, ← UInt32.toNat_inj]
    simp only [String.utf8EncodeChar, lineFeed] at h
    generalize c.val.toNat = v at h hv
    have hb {n : Nat} (e : (10 : UInt8) = UInt8.ofNat n) : n % 256 = 10 := by
      simpa using (congrArg UInt8.toNat e).symm
    split at h
    · simp only [List.mem_singleton] at h
      have := hb h
      show v = 10
      omega
    · exfalso
      split at h
      · simp only [List.mem_cons, List.not_mem_nil, or_false] at h
        rcases h with h | h <;> have := hb h <;> omega
      · split at h
        · simp only [List.mem_cons, List.not_mem_nil, or_false] at h
          rcases h with h | h | h <;> have := hb h <;> omega
        · simp only [List.mem_cons, List.not_mem_nil, or_false] at h
          rcases h with h | h | h | h <;> have := hb h <;> omega
  · rintro rfl
    decide

theorem utf8EncodeChar_ne_nil (c : Char) : String.utf8EncodeChar c ≠ [] := by
  have h := mt bytes_eq_nil.1 (List.cons_ne_nil c [])
  rwa [bytes_cons, bytes_nil, List.append_nil] at h

theorem getLast?_bytes_concat (t : Text) (c : Char) :
    (bytes (t ++ [c])).getLast? = (String.utf8EncodeChar c).getLast? := by
  have h : (String.utf8EncodeChar c).getLast? ≠ none :=
    mt List.getLast?_eq_none_iff.1 (utf8EncodeChar_ne_nil c)
  rw [bytes_append, bytes_cons, bytes_nil, List.append_nil, List.getLast?_append,
    Option.or_of_isSome (Option.isSome_iff_ne_none.2 h)]

theorem head?_bytes_cons (c : Char) (t : Text) :
    (bytes (c :: t)).head? = (String.utf8EncodeChar c).head? := by
  have h : (String.utf8EncodeChar c).head? ≠ none :=
    mt List.head?_eq_none_iff.1 (utf8EncodeChar_ne_nil c)
  rw [bytes_cons, List.head?_append, Option.or_of_isSome (Option.isSome_iff_ne_none.2 h)]

/-- The last byte of some characters, unless a line feed ends them. -/
def byteBefore? (before : Text) : Option UInt8 := (bytes before).getLast?.filter (· != lineFeed)

/-- The first byte of some characters, unless a line feed begins them. -/
def byteAfter? (after : Text) : Option UInt8 := (bytes after).head?.filter (· != lineFeed)

theorem filter_ne_lineFeed {c : Char} (hc : c ≠ '\n') {o : Option UInt8}
    (ho : ∀ b ∈ o, b ∈ String.utf8EncodeChar c) : o.filter (· != lineFeed) = o := by
  cases o with
  | none => rfl
  | some b =>
    have hb : b ≠ lineFeed := by
      rintro rfl
      exact hc (lineFeed_mem_utf8EncodeChar.1 (ho _ rfl))
    rw [Option.filter_some, if_pos (bne_iff_ne.2 hb)]

theorem byteBefore?_concat {c : Char} (hc : c ≠ '\n') (t : Text) :
    byteBefore? (t ++ [c]) = (String.utf8EncodeChar c).getLast? := by
  rw [byteBefore?, getLast?_bytes_concat, filter_ne_lineFeed hc fun _ => List.mem_of_getLast?]

theorem byteAfter?_cons {c : Char} (hc : c ≠ '\n') (t : Text) :
    byteAfter? (c :: t) = (String.utf8EncodeChar c).head? := by
  rw [byteAfter?, head?_bytes_cons, filter_ne_lineFeed hc fun _ => List.mem_of_head?]

/-- The byte behind a text that no line feed ends is the last byte of that text. -/
theorem byteBefore?_append (s : Text) {t : Text} (hne : t ≠ []) (hlast : t.getLast? ≠ some '\n') :
    byteBefore? (s ++ t) = (bytes t).getLast? := by
  cases t using List.reverseRecOn with
  | nil => exact absurd rfl hne
  | append_singleton t c =>
    have hc : c ≠ '\n' := by
      rintro rfl
      exact hlast List.getLast?_concat
    rw [← List.append_assoc, byteBefore?_concat hc, getLast?_bytes_concat]

theorem getLast?_bytes_lastLine (t : Text) : (bytes (lastLine t)).getLast? = byteBefore? t := by
  cases t using List.reverseRecOn with
  | nil => rfl
  | append_singleton t c =>
    rw [lastLine_concat]
    by_cases hc : c = '\n'
    · rw [if_pos hc, byteBefore?, getLast?_bytes_concat, hc]
      rfl
    · rw [if_neg hc, getLast?_bytes_concat, byteBefore?_concat hc]

theorem head?_bytes_firstLine (t : Text) : (bytes (firstLine t)).head? = byteAfter? t := by
  cases t with
  | nil => rfl
  | cons c t =>
    rw [firstLine, List.takeWhile_cons]
    by_cases hc : c = '\n'
    · subst hc
      rfl
    · rw [if_pos (by simpa using hc), head?_bytes_cons, byteAfter?_cons hc]

end Text

namespace Model

open Text

/-- The line of a place behind some characters, as the bytes before and after the place. -/
theorem line?_advance {m : Model} {before rest : Text} (h : m.text = before ++ rest) :
    m.line? (before.count '\n') = some (lastLine before ++ firstLine rest) := by
  rw [line?, lines, h, getElem?_lines]

theorem byteAt?_advance {m : Model} {before rest : Text} (h : m.text = before ++ rest) :
    m.byteAt? (Position.origin.advance before) = byteAfter? rest := by
  rw [advance_origin, byteAt?, if_neg (Nat.succ_ne_zero _), Nat.add_sub_cancel, line?_advance h,
    Option.bind_some, Text.byteAt?_eq, bytes_append, ← length_bytes,
    List.getElem?_append_right (Nat.le_refl _), Nat.sub_self, ← List.head?_eq_getElem?,
    head?_bytes_firstLine]

/-- The byte before a place, as the checks look for it. -/
theorem byteBefore?_advance {m : Model} {before rest : Text} (h : m.text = before ++ rest) :
    (if (Position.origin.advance before).column = 0 then none
      else m.byteAt? ⟨(Position.origin.advance before).line,
        (Position.origin.advance before).column - 1⟩) = byteBefore? before := by
  rw [advance_origin, ← getLast?_bytes_lastLine, ← length_bytes]
  by_cases hl : (bytes (lastLine before)).length = 0
  · rw [if_pos hl, List.length_eq_zero_iff.1 hl]
    rfl
  · rw [if_neg hl, byteAt?, if_neg (Nat.succ_ne_zero _), Nat.add_sub_cancel, line?_advance h,
      Option.bind_some, Text.byteAt?_eq, bytes_append,
      List.getElem?_append_left (Nat.sub_one_lt hl), List.getLast?_eq_getElem?]

end Model

end ScriptStyle
