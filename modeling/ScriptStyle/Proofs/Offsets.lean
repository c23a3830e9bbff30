import Mathlib.Data.List.DropRight
import ScriptStyle.Proofs.Removal

/-!
# Offsets and places

A parser knows the bytes of a text by their offsets and tells their places by counting: the line
feeds among the bytes before, and the bytes behind the last of them. A model has its text cut into
lines and looks the bytes up there. `Model.byteAt?_offsets` says that both speak of the same bytes.
Each byte but a line feed is found at the place of its offset, no two offsets have one place, and
nothing is found anywhere else.

A place may lie within a character, so the counting is done on bytes (`Text.placeBehind`). Where a
character begins it gives the place that a tree has there (`Text.placeAt_byteSize`).
-/

namespace ScriptStyle

namespace Text

/-! ## Counting -/

/-- The place behind some bytes: its line counts their line feeds, its column the bytes behind the
last of them. -/
def placeBehind (bs : List UInt8) : Position :=
  ⟨bs.count lineFeed + 1, (bs.rtakeWhile (· != lineFeed)).length⟩

/-- The place of the byte at an offset. -/
def placeAt (t : Text) (offset : Nat) : Position := placeBehind (t.bytes.take offset)

/-- Bytes without a line feed lead on in the same line. -/
theorem placeBehind_append {bs cs : List UInt8} (hcs : lineFeed ∉ cs) :
    placeBehind (bs ++ cs) = ⟨(placeBehind bs).line, (placeBehind bs).column + cs.length⟩ := by
  have hne : ∀ b ∈ cs.reverse, (b != lineFeed) = true := by
    intro b hb
    rw [bne_iff_ne]
    rintro rfl
    exact hcs (List.mem_reverse.1 hb)
  rw [placeBehind, placeBehind, List.count_append, List.count_eq_zero.2 hcs, List.rtakeWhile,
    List.reverse_append, List.takeWhile_append_of_pos hne, List.rtakeWhile]
  simp [Nat.add_comm]

theorem placeBehind_concat_lineFeed (bs : List UInt8) :
    placeBehind (bs ++ [lineFeed]) = ⟨(placeBehind bs).line + 1, 0⟩ := by
  simp [placeBehind]

/-- No bytes but none at all lead to where they began. -/
theorem eq_nil_of_placeBehind_append {bs cs : List UInt8}
    (h : placeBehind (bs ++ cs) = placeBehind bs) : cs = [] := by
  have hline := congrArg Position.line h
  have hcolumn := congrArg Position.column h
  have hcs : lineFeed ∉ cs := by
    dsimp only [placeBehind] at hline
    rw [List.count_append] at hline
    rw [← List.count_eq_zero]
    omega
  rw [placeBehind_append hcs] at hcolumn
  refine List.eq_nil_of_length_eq_zero ?_
  dsimp only at hcolumn
  omega

/-- Different bytes of a text have different places. -/
theorem placeAt_inj {t : Text} {o o' : Nat} (ho : o < t.bytes.length) (ho' : o' < t.bytes.length)
    (h : t.placeAt o = t.placeAt o') : o = o' := by
  wlog hle : o ≤ o' generalizing o o'
  · exact (this ho' ho h.symm (Nat.le_of_not_le hle)).symm
  -- What lies between the two offsets leads from a place to itself.
  have hsplit : t.bytes.take o ++ (t.bytes.take o').drop o = t.bytes.take o' := by
    have htake : (t.bytes.take o').take o = t.bytes.take o := by
      rw [List.take_take, Nat.min_eq_left hle]
    rw [← htake, List.take_append_drop]
  rw [placeAt, placeAt, ← hsplit] at h
  have hlength := congrArg List.length (eq_nil_of_placeBehind_append h.symm)
  rw [List.length_drop, List.length_take, List.length_nil] at hlength
  omega

/-! ## Characters -/

theorem lineFeed_mem_bytes {t : Text} : lineFeed ∈ bytes t ↔ '\n' ∈ t := by
  simp [bytes, lineFeed_mem_utf8EncodeChar]

theorem placeBehind_bytes_concat (t : Text) (c : Char) :
    placeBehind (bytes (t ++ [c])) = (placeBehind (bytes t)).next c := by
  rw [bytes_append, bytes_cons, bytes_nil, List.append_nil, Position.next]
  by_cases hc : c = '\n'
  · rw [if_pos hc, hc]
    exact placeBehind_concat_lineFeed _
  · rw [if_neg hc, placeBehind_append (mt lineFeed_mem_utf8EncodeChar.1 hc),
      String.length_utf8EncodeChar]

/-- Behind the bytes of some characters is the place behind these characters. -/
theorem placeBehind_bytes (t : Text) : placeBehind (bytes t) = Position.origin.advance t := by
  induction t using List.reverseRecOn with
  | nil => rfl
  | append_singleton t c ih =>
    rw [placeBehind_bytes_concat, ih, Position.advance_append, Position.advance_cons,
      Position.advance_nil]

/-- The bytes up to an offset that lies some bytes behind a character. -/
theorem take_bytes_append (before rest : Text) (k : Nat) :
    (bytes (before ++ rest)).take (byteSize before + k) = bytes before ++ (bytes rest).take k := by
  rw [bytes_append, ← length_bytes, List.take_length_add_append]

theorem getElem?_bytes_append (before rest : Text) (k : Nat) :
    (bytes (before ++ rest))[byteSize before + k]? = (bytes rest)[k]? := by
  rw [bytes_append, ← length_bytes, List.getElem?_append_right (Nat.le_add_right _ _),
    Nat.add_sub_cancel_left]

/-- The offset where a character begins has the place of this character. -/
theorem placeAt_byteSize (before rest : Text) :
    (before ++ rest).placeAt (byteSize before) = Position.origin.advance before := by
  have htake := take_bytes_append before rest 0
  rw [Nat.add_zero, List.take_zero, List.append_nil] at htake
  rw [placeAt, htake, placeBehind_bytes]

/-- Every byte belongs to a character. -/
theorem exists_char_of_getElem?_bytes {t : Text} {o : Nat} {b : UInt8}
    (h : (bytes t)[o]? = some b) :
    ∃ before c rest k, t = before ++ c :: rest ∧ o = byteSize before + k ∧
      (String.utf8EncodeChar c)[k]? = some b := by
  induction t generalizing o with
  | nil => cases h
  | cons c t ih =>
    rw [bytes_cons] at h
    by_cases ho : o < (String.utf8EncodeChar c).length
    · rw [List.getElem?_append_left ho] at h
      exact ⟨[], c, t, o, rfl, (Nat.zero_add o).symm, h⟩
    · rw [List.getElem?_append_right (Nat.le_of_not_lt ho)] at h
      obtain ⟨before, d, rest, k, rfl, hk, hb⟩ := ih h
      refine ⟨c :: before, d, rest, k, rfl, ?_, hb⟩
      rw [String.length_utf8EncodeChar] at ho hk
      rw [byteSize]
      omega

/-! ## Lines -/

theorem length_lines (t : Text) : (lines t).length = t.count '\n' + 1 := by
  induction t with
  | nil => rfl
  | cons c t ih =>
    by_cases hc : c = '\n'
    · rw [lines, if_pos hc, List.length_cons, ih, hc, List.count_cons_self]
    · rw [lines_cons_of_ne hc, List.length_modifyHead, ih, List.count_cons_of_ne hc]

theorem joined_lines (t : Text) : joined (lines t) = t := by
  rw [joined, lines_eq_splitOn, List.intercalate_splitOn]

/-- There is a place at the beginning of each line. -/
theorem exists_lineStart {t : Text} {r : Nat} (h : r ≤ t.count '\n') :
    ∃ before rest, t = before ++ rest ∧ before.count '\n' = r ∧ lastLine before = [] := by
  induction r with
  | zero => exact ⟨[], t, rfl, rfl, rfl⟩
  | succ r ih =>
    obtain ⟨before, rest, rfl, hcount, -⟩ := ih (by omega)
    have hmem : '\n' ∈ rest := by
      rw [List.count_append] at h
      exact List.count_pos_iff.1 (by omega)
    obtain ⟨line, rest, rfl, hline⟩ := List.eq_append_cons_of_mem hmem
    refine ⟨before ++ line ++ ['\n'], rest, by simp, ?_, ?_⟩
    · rw [List.count_append, List.count_append, List.count_eq_zero.2 hline, hcount,
        List.count_singleton_self]
    · rw [lastLine_concat, if_pos rfl]

end Text

open Text (bytes byteSize lineFeed placeBehind)

namespace Model

variable {m : Model} {p : Position} {o : Nat} {b : UInt8}

/-! ## Bytes at places -/

/-- At the place of an offset stands its byte, unless this is a line feed. -/
theorem byteAt?_placeAt (h : m.text.bytes[o]? = some b) :
    m.byteAt? (m.text.placeAt o) = if b = lineFeed then none else some b := by
  obtain ⟨before, c, rest, k, ht, rfl, hk⟩ := Text.exists_char_of_getElem?_bytes h
  have hklt : k < (String.utf8EncodeChar c).length := (List.getElem?_eq_some_iff.1 hk).1
  by_cases hc : c = '\n'
  · -- A line feed is a single byte, so the offset is where it begins.
    subst hc
    obtain rfl : k = 0 := Nat.lt_one_iff.1 hklt
    obtain rfl : lineFeed = b := Option.some.inj hk
    rw [if_pos rfl, Nat.add_zero, ht, Text.placeAt_byteSize, byteAt?_advance ht]
    rfl
  · have hb : b ≠ lineFeed := by
      rintro rfl
      exact hc (Text.lineFeed_mem_utf8EncodeChar.1 (List.mem_of_getElem? hk))
    have htake : (bytes (c :: rest)).take k = (String.utf8EncodeChar c).take k := by
      rw [Text.bytes_cons, List.take_append_of_le_length (Nat.le_of_lt hklt)]
    have hfeed : lineFeed ∉ (String.utf8EncodeChar c).take k :=
      fun hmem => hc (Text.lineFeed_mem_utf8EncodeChar.1 (List.mem_of_mem_take hmem))
    have hfirst : Text.firstLine (c :: rest) = c :: Text.firstLine rest := by
      rw [Text.firstLine, List.takeWhile_cons_of_pos (by simpa using hc), Text.firstLine]
    rw [if_neg hb, ht, Text.placeAt, Text.take_bytes_append, htake, Text.placeBehind_append hfeed,
      Text.placeBehind_bytes, Text.advance_origin, List.length_take_of_le (Nat.le_of_lt hklt),
      byteAt?, if_neg (Nat.succ_ne_zero _), Nat.add_sub_cancel, line?_advance ht, Option.bind_some,
      Text.byteAt?_eq, Text.getElem?_bytes_append, hfirst, Text.bytes_cons,
      List.getElem?_append_left hklt, hk]

/-- A byte that is found at a place has an offset with this place. -/
theorem exists_offset_of_byteAt? (h : m.byteAt? p = some b) :
    ∃ o, m.text.bytes[o]? = some b ∧ m.text.placeAt o = p := by
  have hline : p.line ≠ 0 := by
    intro hzero
    rw [byteAt?, if_pos hzero] at h
    cases h
  rw [byteAt?, if_neg hline] at h
  obtain ⟨line, hget, hb⟩ := Option.bind_eq_some_iff.1 h
  rw [Text.byteAt?_eq] at hb
  have hlt : p.line - 1 < m.text.lines.length := (List.getElem?_eq_some_iff.1 hget).1
  rw [Text.length_lines] at hlt
  obtain ⟨before, rest, ht, hcount, hlast⟩ := Text.exists_lineStart (Nat.le_of_lt_succ hlt)
  -- The line is what stands behind its beginning, up to the next line feed.
  obtain rfl : Text.firstLine rest = line := by
    have hfound := line?_advance ht
    rw [hcount, hlast, List.nil_append] at hfound
    exact Option.some.inj (hfound.symm.trans hget)
  have hrest : Text.firstLine rest ++ rest.dropWhile (· ≠ '\n') = rest :=
    List.takeWhile_append_dropWhile
  have hfeed : lineFeed ∉ (bytes (Text.firstLine rest)).take p.column := by
    intro hmem
    have hmem := Text.lineFeed_mem_bytes.1 (List.mem_of_mem_take hmem)
    simpa using List.mem_takeWhile_imp hmem
  have hcolumn : p.column < (bytes (Text.firstLine rest)).length :=
    (List.getElem?_eq_some_iff.1 hb).1
  refine ⟨byteSize before + p.column, ?_, ?_⟩
  · rw [ht, Text.getElem?_bytes_append, ← hrest, Text.bytes_append,
      List.getElem?_append_left hcolumn, hb]
  · rw [ht, Text.placeAt, Text.take_bytes_append, ← hrest, Text.bytes_append,
      List.take_append_of_le_length (Nat.le_of_lt hcolumn), Text.placeBehind_append hfeed,
      Text.placeBehind_bytes, Text.advance_origin, hlast, hcount,
      List.length_take_of_le (Nat.le_of_lt hcolumn), Position.eq_iff]
    exact ⟨Nat.sub_add_cancel (Nat.pos_of_ne_zero hline), Nat.zero_add _⟩

/-- The text has a byte with this place, and it is no line feed. -/
def HasByte (m : Model) (p : Position) : Prop :=
  ∃ o < m.text.bytes.length, m.text.bytes[o]? ≠ some lineFeed ∧ m.text.placeAt o = p

instance (m : Model) (p : Position) : Decidable (m.HasByte p) :=
  inferInstanceAs (Decidable (∃ o < _, _))

theorem hasByte_iff : m.HasByte p ↔ ∃ b, m.byteAt? p = some b := by
  constructor
  · rintro ⟨o, ho, hfeed, rfl⟩
    have hget : m.text.bytes[o]? = some m.text.bytes[o] := List.getElem?_eq_getElem ho
    rw [hget, Ne, Option.some_inj] at hfeed
    exact ⟨_, (byteAt?_placeAt hget).trans (if_neg hfeed)⟩
  · rintro ⟨b, hb⟩
    obtain ⟨o, ho, rfl⟩ := exists_offset_of_byteAt? hb
    refine ⟨o, (List.getElem?_eq_some_iff.1 ho).1, ?_, rfl⟩
    rintro hfeed
    rw [byteAt?_placeAt hfeed, if_pos rfl] at hb
    cases hb

theorem byteAt?_eq_none_iff : m.byteAt? p = none ↔ ¬ m.HasByte p := by
  rw [hasByte_iff]
  cases m.byteAt? p <;> simp

/-- The lines of a source hold no line feed, there is one more of them than there are line feeds,
and joined they are the text. At the place of each offset stands its byte, or nothing if it is a
line feed. Wherever a byte stands there is the place of just one offset, at other places and in line
zero there is none; and the place of a character is that of the offset where it begins. -/
theorem byteAt?_offsets (m : Model) :
    (∀ line ∈ m.lines, '\n' ∉ line) ∧
    m.lines.length = m.text.count '\n' + 1 ∧
    Text.joined m.lines = m.text ∧
    (∀ o b, m.text.bytes[o]? = some b →
      m.byteAt? (m.text.placeAt o) = if b = lineFeed then none else some b) ∧
    (∀ p b, m.byteAt? p = some b → ∃! o, o < m.text.bytes.length ∧ m.text.placeAt o = p) ∧
    (∀ p, (∀ o < m.text.bytes.length, m.text.placeAt o ≠ p) → m.byteAt? p = none) ∧
    (∀ column, m.byteAt? ⟨0, column⟩ = none) ∧
    ∀ before rest, m.text = before ++ rest →
      m.text.placeAt (byteSize before) = Position.origin.advance before := by
  refine ⟨fun _ => Text.not_mem_of_mem_lines, Text.length_lines _, Text.joined_lines _,
    fun _ _ => byteAt?_placeAt, ?_, ?_, fun _ => rfl, ?_⟩
  · intro p b hb
    obtain ⟨o, ho, hp⟩ := exists_offset_of_byteAt? hb
    have hlt := (List.getElem?_eq_some_iff.1 ho).1
    refine ⟨o, ⟨hlt, hp⟩, ?_⟩
    rintro o' ⟨hlt', hp'⟩
    exact Text.placeAt_inj hlt' hlt (hp'.trans hp.symm)
  · intro p hp
    rw [byteAt?_eq_none_iff]
    rintro ⟨o, ho, -, hplace⟩
    exact hp o ho hplace
  · intro before rest ht
    rw [ht, Text.placeAt_byteSize]

/-- A character of two bytes, an empty line, and a character of one byte. -/
def accentAbove : Model where
  text := ['é', '\n', '\n', 'b']
  program := []
  tokens := []
  filename := noFilename

/-- The second byte of the first character has a place of its own, and the two line feeds have
places without a byte. -/
theorem byteAt?_offsets_accentAbove :
    accentAbove.text.bytes[1]? = some 169 ∧ accentAbove.text.placeAt 1 = ⟨1, 1⟩ ∧
    accentAbove.byteAt? ⟨1, 1⟩ = some 169 ∧
    (∃! o, o < accentAbove.text.bytes.length ∧ accentAbove.text.placeAt o = ⟨1, 1⟩) ∧
    accentAbove.byteAt? ⟨1, 2⟩ = none ∧ accentAbove.byteAt? ⟨2, 0⟩ = none ∧
    accentAbove.byteAt? ⟨2, 1⟩ = none ∧
    accentAbove.text.placeAt 4 = Position.origin.advance ['é', '\n', '\n'] := by
  obtain ⟨-, -, -, hbytes, hunique, hother, -, hplace⟩ := byteAt?_offsets accentAbove
  have hbyte : accentAbove.byteAt? ⟨1, 1⟩ = some 169 := hbytes 1 169 (by decide)
  exact ⟨by decide, by decide, hbyte, hunique _ _ hbyte, hbytes 2 10 (by decide),
    hbytes 3 10 (by decide), hother _ (by decide), hplace ['é', '\n', '\n'] ['b'] rfl⟩

end Model

end ScriptStyle
