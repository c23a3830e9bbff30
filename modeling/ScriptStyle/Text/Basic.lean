/-!
# Texts

A text is a list of characters, so everything about it can be said and computed by recursion.
Strings appear only where a text enters or leaves the program. Columns count UTF-8 bytes, so a text
also has a size in bytes and a byte at every offset below it.

Lines end at line feeds alone. The text after the last line feed is a line too, so there is always
one more line than there are line feeds.
-/

namespace ScriptStyle

/-- A list of characters. -/
abbrev Text := List Char

namespace Text

/-- The UTF-8 bytes of a text. -/
def bytes (t : Text) : List UInt8 := t.flatMap String.utf8EncodeChar

/-- The number of UTF-8 bytes of a text. -/
def byteSize : Text → Nat
  | [] => 0
  | c :: cs => c.utf8Size + byteSize cs

/-- The byte at an offset, if the offset lies within the text. -/
def byteAt? : Text → Nat → Option UInt8
  | [], _ => none
  | c :: cs, n =>
    if n < c.utf8Size then (String.utf8EncodeChar c)[n]? else byteAt? cs (n - c.utf8Size)

/-- The lines of a text, without the line feeds. -/
def lines : Text → List Text
  | [] => [[]]
  | c :: cs =>
    if c = '\n' then [] :: lines cs
    else match lines cs with
      | [] => [[c]]
      | l :: ls => (c :: l) :: ls

@[simp] theorem bytes_nil : bytes [] = [] := rfl

@[simp] theorem bytes_cons (c : Char) (cs : Text) :
    bytes (c :: cs) = String.utf8EncodeChar c ++ bytes cs := rfl

@[simp] theorem bytes_append (s t : Text) : bytes (s ++ t) = bytes s ++ bytes t := by
  simp [bytes]

theorem length_bytes (t : Text) : (bytes t).length = byteSize t := by
  induction t with
  | nil => rfl
  | cons c cs ih => simp [byteSize, ih]

theorem byteAt?_eq (t : Text) (n : Nat) : byteAt? t n = (bytes t)[n]? := by
  induction t generalizing n with
  | nil => rfl
  | cons c cs ih =>
    rw [byteAt?, bytes_cons, List.getElem?_append, String.length_utf8EncodeChar]
    split
    · rfl
    · rw [ih]

theorem lines_ne_nil (t : Text) : lines t ≠ [] := by
  cases t with
  | nil => simp [lines]
  | cons c cs =>
    rw [lines]
    split
    · simp
    · split <;> simp

end Text

end ScriptStyle
