import Mathlib.Data.List.Basic
import ScriptStyle.Json.Scalar
import ScriptStyle.Json.Value

/-!
# Values as they may be written

The same value can be written in many ways: blanks may stand between any two of its parts, and a
character between quotes may be given by an escape. Here a text is related to the value that it is
a spelling of, whatever its layout. Both ways of writing a value, on one line and with every item on
a line of its own, come to such a text.
-/

namespace ScriptStyle.Json

open Input (isBlank simpleEscape? hexValue? isHighSurrogate isLowSurrogate)

/-! ## Texts between quotes -/

/-- The digits stand for a number of sixteen bits. -/
inductive IsCode : Text → Nat → Prop
  | digits {a b c d : Char} {x y z w : Nat} (ha : hexValue? a = some x) (hb : hexValue? b = some y)
      (hc : hexValue? c = some z) (hd : hexValue? d = some w) :
      IsCode [a, b, c, d] (((x * 16 + y) * 16 + z) * 16 + w)

/-- The second text stands for a character of a text between quotes. -/
inductive SpellsChar : Char → Text → Prop
  | plain {c : Char} (hquote : c ≠ '"') (hslash : c ≠ '\\') (hprintable : 32 ≤ c.toNat) :
      SpellsChar c [c]
  | simple {c d : Char} (h : simpleEscape? d = some c) : SpellsChar c ['\\', d]
  | code {n : Nat} {ds : Text} (h : IsCode ds n) (hhigh : isHighSurrogate n = false)
      (hlow : isLowSurrogate n = false) : SpellsChar (.ofNat n) ('\\' :: 'u' :: ds)
  | pair {n m : Nat} {ds es : Text} (hn : IsCode ds n) (hm : IsCode es m)
      (hhigh : isHighSurrogate n = true) (hlow : isLowSurrogate m = true) :
      SpellsChar (.ofNat ((n - 0xD800) * 1024 + (m - 0xDC00) + 0x10000))
        ('\\' :: 'u' :: (ds ++ '\\' :: 'u' :: es))

/-- The second text stands for the first one between quotes. -/
inductive Spells : Text → Text → Prop
  | nil : Spells [] []
  | cons {c : Char} {cs s t : Text} (hc : SpellsChar c s) (h : Spells cs t) :
      Spells (c :: cs) (s ++ t)

/-- The second text is the first one in quotes. -/
def Quoted (t q : Text) : Prop := ∃ s, Spells t s ∧ q = '"' :: (s ++ ['"'])

/-- Up to fifteen, a digit in base sixteen has the value that it was written for. -/
theorem hexValue?_hexDigit {n : Nat} (h : n < 16) : hexValue? (hexDigit n) = some n := by
  revert n
  decide

/-- A control character is given by its number. -/
theorem isCode_control {c : Char} (h : c.toNat < 32) :
    IsCode ['0', '0', hexDigit (c.toNat / 16), hexDigit (c.toNat % 16)] c.toNat := by
  have hdigits : IsCode ['0', '0', hexDigit (c.toNat / 16), hexDigit (c.toNat % 16)]
      (((0 * 16 + 0) * 16 + c.toNat / 16) * 16 + c.toNat % 16) :=
    .digits rfl rfl (hexValue?_hexDigit (by omega)) (hexValue?_hexDigit (by omega))
  have hvalue : ((0 * 16 + 0) * 16 + c.toNat / 16) * 16 + c.toNat % 16 = c.toNat := by omega
  rwa [hvalue] at hdigits

theorem spellsChar_escape (c : Char) : SpellsChar c (escape c) := by
  unfold escape
  split
  · exact .simple (by subst c; rfl)
  split
  · exact .simple (by subst c; rfl)
  split
  · exact .plain ‹_› ‹_› ‹_›
  have hcontrol : c.toNat < 32 := by omega
  split
  · exact .simple (by subst c; rfl)
  split
  · exact .simple (by subst c; rfl)
  split
  · exact .simple (by subst c; rfl)
  split
  · exact .simple (by subst c; rfl)
  split
  · exact .simple (by subst c; rfl)
  have hcode := SpellsChar.code (isCode_control hcontrol) (by simp [isHighSurrogate]; omega)
    (by simp [isLowSurrogate]; omega)
  rwa [Char.ofNat_toNat] at hcode

theorem spells_escapes (t : Text) : Spells t (t.flatMap escape) := by
  induction t with
  | nil => exact .nil
  | cons c cs ih => exact .cons (spellsChar_escape c) ih

theorem quoted_quote (t : Text) : Quoted t (quote t) := ⟨_, spells_escapes t, rfl⟩

theorem Quoted.starts {t q : Text} (h : Quoted t q) : ∃ cs, q = '"' :: cs := by
  obtain ⟨s, -, rfl⟩ := h
  exact ⟨s ++ ['"'], rfl⟩

/-! ## Layouts -/

/-- Nothing but blanks. -/
def IsBlankText (t : Text) : Prop := ∀ c ∈ t, isBlank c = true

/-- What stands before an item: blanks, and before every item but the first one also a comma. -/
inductive IsSeparator : Bool → Text → Prop
  | first {b : Text} (hb : IsBlankText b) : IsSeparator true b
  | later {b b' : Text} (hb : IsBlankText b) (hb' : IsBlankText b') :
      IsSeparator false (b ++ ',' :: b')

section

variable {α : Type} (W : α → Text → Prop)

/-- The items of an array that are left, with what closes it. -/
inductive WrittenItems : Bool → List α → Text → Prop
  | close {first : Bool} {b : Text} (hb : IsBlankText b) : WrittenItems first [] (b ++ [']'])
  | item {first : Bool} {a : α} {as : List α} {l t rest : Text} (hl : IsSeparator first l)
      (ha : W a t) (h : WrittenItems false as rest) :
      WrittenItems first (a :: as) (l ++ (t ++ rest))

/-- The members of an object that are left, with what closes it. -/
inductive WrittenMembers : Bool → List (Text × α) → Text → Prop
  | close {first : Bool} {b : Text} (hb : IsBlankText b) :
      WrittenMembers first [] (b ++ [closeBrace])
  | member {first : Bool} {k : Text} {a : α} {ms : List (Text × α)} {l q b b' t rest : Text}
      (hl : IsSeparator first l) (hq : Quoted k q) (hb : IsBlankText b) (hb' : IsBlankText b')
      (ha : W a t) (h : WrittenMembers false ms rest) :
      WrittenMembers first ((k, a) :: ms) (l ++ (q ++ (b ++ ':' :: (b' ++ (t ++ rest)))))

variable {W}

theorem IsSeparator.le_length {first : Bool} {l : Text} (h : IsSeparator first l) :
    (if first then 0 else 1) ≤ l.length := by
  cases h with
  | first => simp
  | later => simp; omega

theorem WrittenItems.length_le {first : Bool} {as : List α} {t : Text}
    (h : WrittenItems W first as t) :
    as.length + (if first then 0 else 1) ≤ t.length := by
  induction h with
  | close hb => cases ‹Bool› <;> simp
  | @item first a as l q t hl ha h ih =>
    have hl := hl.le_length
    simp only [List.length_cons, List.length_append, Bool.false_eq_true, ↓reduceIte] at ih ⊢
    omega

theorem WrittenMembers.length_le {first : Bool} {ms : List (Text × α)} {t : Text}
    (h : WrittenMembers W first ms t) : ms.length + (if first then 0 else 1) ≤ t.length := by
  induction h with
  | close hb => cases ‹Bool› <;> simp
  | member hl hq hb hb' ha h ih =>
    have hl := hl.le_length
    simp only [List.length_cons, List.length_append, Bool.false_eq_true, ↓reduceIte] at ih ⊢
    omega

end

/-- The text is a way to write the value. -/
inductive Written : Value → Text → Prop
  | null : Written .null "null".toList
  | bool (b : Bool) : Written (.bool b) (boolWord b)
  | number (n : Nat) : Written (.number n) (decimal n)
  | text {t q : Text} (h : Quoted t q) : Written (.text t) q
  | array {vs : List Value} {t : Text} (h : WrittenItems Written true vs t) :
      Written (.array vs) ('[' :: t)
  | object {ms : List (Text × Value)} {t : Text} (h : WrittenMembers Written true ms t) :
      Written (.object ms) (openBrace :: t)

/-- A number is written in one way only. -/
theorem Written.eq_decimal {n : Nat} {t : Text} (h : Written (.number n) t) : t = decimal n := by
  cases h
  rfl

/-! ## The two writers -/

theorem IsBlankText.nil : IsBlankText [] := by simp [IsBlankText]

theorem isBlankText_space : IsBlankText [' '] := by simp [IsBlankText, isBlank]

theorem isBlankText_lineBreak (depth : Nat) : IsBlankText (lineBreak depth) := by
  intro c hc
  rcases List.mem_cons.mp hc with rfl | hc
  · rfl
  · rw [List.eq_of_mem_replicate hc]
    rfl

section

variable {α : Type} {W : α → Text → Prop}

/-- Behind a comma, the items of an array go on with the items of another one. -/
theorem WrittenItems.comma {a : α} {as : List α} {t : Text} (h : WrittenItems W true (a :: as) t) :
    WrittenItems W false (a :: as) (',' :: t) := by
  cases h with
  | item hl ha h =>
    cases hl with
    | first hb => exact .item (.later .nil hb) ha h

/-- Behind a comma, the members of an object go on with the members of another one. -/
theorem WrittenMembers.comma {m : Text × α} {ms : List (Text × α)} {t : Text}
    (h : WrittenMembers W true (m :: ms) t) : WrittenMembers W false (m :: ms) (',' :: t) := by
  cases h with
  | member hl hq hb hb' ha h =>
    cases hl with
    | first hl => exact .member (.later .nil hl) hq hb hb' ha h

end

mutual

theorem written_compact : (v : Value) → Written v (compact v)
  | .null => .null
  | .bool b => .bool b
  | .number n => .number n
  | .text t => .text (quoted_quote t)
  | .array vs => .array (writtenItems_compact vs)
  | .object ms => .object (writtenMembers_compact ms)

theorem writtenItems_compact : (vs : List Value) → WrittenItems Written true vs (compactItems vs)
  | [] => .close .nil
  | [v] => .item (.first .nil) (written_compact v) (.close .nil)
  | v :: w :: vs =>
    .item (.first .nil) (written_compact v) (writtenItems_compact (w :: vs)).comma

theorem writtenMembers_compact : (ms : List (Text × Value)) →
    WrittenMembers Written true ms (compactMembers ms)
  | [] => .close .nil
  | [(k, v)] => by
    have hclose : WrittenMembers Written false [] [closeBrace] := .close .nil
    have h := hclose.member (.first .nil) (quoted_quote k) .nil .nil (written_compact v)
    simpa [compactMembers] using h
  | (k, v) :: m :: ms => by
    have h := WrittenMembers.member (.first .nil) (quoted_quote k) .nil .nil
      (written_compact v) (writtenMembers_compact (m :: ms)).comma
    simpa [compactMembers] using h

end

mutual

theorem written_indented : (depth : Nat) → (v : Value) → Written v (indented depth v)
  | _, .null => .null
  | _, .bool b => .bool b
  | _, .number n => .number n
  | _, .text t => .text (quoted_quote t)
  | _, .array [] => .array (.close .nil)
  | depth, .array (v :: vs) => .array (writtenItems_indented depth (v :: vs))
  | _, .object [] => .object (.close .nil)
  | depth, .object (m :: ms) => .object (writtenMembers_indented depth (m :: ms))

theorem writtenItems_indented : (depth : Nat) → (vs : List Value) →
    WrittenItems Written true vs (indentedItems depth vs)
  | depth, [] => .close (isBlankText_lineBreak depth)
  | depth, [v] => by
    have h := WrittenItems.item (.first (isBlankText_lineBreak (depth + 1)))
      (written_indented (depth + 1) v) (.close (isBlankText_lineBreak depth))
    simpa [indentedItems] using h
  | depth, v :: w :: vs => by
    have h := WrittenItems.item (.first (isBlankText_lineBreak (depth + 1)))
      (written_indented (depth + 1) v) (writtenItems_indented depth (w :: vs)).comma
    simpa [indentedItems] using h

theorem writtenMembers_indented : (depth : Nat) → (ms : List (Text × Value)) →
    WrittenMembers Written true ms (indentedMembers depth ms)
  | depth, [] => .close (isBlankText_lineBreak depth)
  | depth, [(k, v)] => by
    have h := WrittenMembers.member (.first (isBlankText_lineBreak (depth + 1)))
      (quoted_quote k) .nil isBlankText_space (written_indented (depth + 1) v)
      (.close (isBlankText_lineBreak depth))
    simpa [indentedMembers] using h
  | depth, (k, v) :: m :: ms => by
    have h := WrittenMembers.member (.first (isBlankText_lineBreak (depth + 1)))
      (quoted_quote k) .nil isBlankText_space (written_indented (depth + 1) v)
      (writtenMembers_indented depth (m :: ms)).comma
    simpa [indentedMembers] using h

end

end ScriptStyle.Json
