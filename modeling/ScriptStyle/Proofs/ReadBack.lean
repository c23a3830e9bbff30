import Mathlib.Data.List.TakeWhile
import ScriptStyle.Json.Typed
import ScriptStyle.Proofs.Written

/-!
# Reading back what was written

A reader that expects a certain kind of value takes every way of writing one, and comes to stand
right behind it. The layout makes no difference, and neither does what follows, as long as a number
does not go on there.
-/

namespace ScriptStyle.Json

namespace Input

/-! ## Blanks -/

/-- The longest beginning with a property, if what follows begins without it. -/
theorem takeWhile_append_stop {q : Char → Bool} {t rest : Text} (ht : ∀ c ∈ t, q c = true)
    (hrest : ∀ c ∈ rest.head?, q c = false) : (t ++ rest).takeWhile q = t := by
  have hstop : rest.takeWhile q = [] := by
    cases rest with
    | nil => rfl
    | cons c cs => exact List.takeWhile_cons_of_neg (by simp [hrest c rfl])
  rw [List.takeWhile_append_of_pos ht, hstop, List.append_nil]

theorem skipBlanks_append {b : Text} {c : Char} (hb : IsBlankText b) (hc : isBlank c = false)
    (p : Position) (cs : Text) : skipBlanks ⟨p, b ++ c :: cs⟩ = ⟨p.advance b, c :: cs⟩ := by
  have hblanks : (b ++ c :: cs).takeWhile isBlank = b :=
    takeWhile_append_stop hb (by simpa using hc)
  simp [skipBlanks, hblanks]

/-! ## Texts -/

theorem hexDigits_code {ds : Text} {n : Nat} (h : IsCode ds n) (p : Position) (rest : Text) :
    hexDigits ⟨p, ds ++ rest⟩ = .ok (n, ⟨p.advance ds, rest⟩) := by
  obtain ⟨ha, hb, hc, hd⟩ := h
  rename_i a b c d x y z w
  have hsize : ¬ Text.byteSize (a :: b :: c :: d :: rest) < 4 := by
    have := a.utf8Size_pos
    have := b.utf8Size_pos
    have := c.utf8Size_pos
    have := d.utf8Size_pos
    simp only [Text.byteSize]
    omega
  simp [hexDigits, hsize, ha, hb, hc, hd]

theorem pairSign_cons (p : Position) (c : Char) (cs : Text) :
    pairSign ⟨p, c :: cs⟩ c = .ok ⟨p.next c, cs⟩ := by
  simp [pairSign]

/-- Every spelling but that of a plain character is an escape. -/
theorem escaped_spelling {c : Char} {s : Text} (h : SpellsChar c ('\\' :: s)) (p : Position)
    (rest : Text) : escaped ⟨p, s ++ rest⟩ = .ok (c, ⟨p.advance s, rest⟩) := by
  cases h with
  | plain _ hslash _ => exact absurd rfl hslash
  | @simple _ d h =>
    have hd : d ≠ 'u' := by
      rintro rfl
      simp [simpleEscape?] at h
    simp [escaped, hd, h]
  | code h hhigh hlow =>
    simp [escaped, unicodeEscape, hexDigits_code h, hhigh, hlow, bind, Except.bind, pure,
      Except.pure]
  | @pair n _ _ _ hn hm hhigh hlow =>
    have hnext : isLowSurrogate n = false := by
      simp only [isHighSurrogate, isLowSurrogate, Bool.and_eq_true, decide_eq_true_eq,
        Bool.and_eq_false_iff, decide_eq_false_iff_not] at hhigh ⊢
      omega
    simp [escaped, unicodeEscape, hexDigits_code hn, hexDigits_code hm, pairSign_cons, hhigh, hlow,
      hnext, bind, Except.bind, pure, Except.pure]

theorem textRest_spells {t s : Text} (h : Spells t s) {fuel : Nat} (hfuel : t.length < fuel)
    (p : Position) (rest : Text) :
    textRest fuel ⟨p, s ++ '"' :: rest⟩ = .ok (t, ⟨p.advance (s ++ ['"']), rest⟩) := by
  induction h generalizing fuel p with
  | nil =>
    obtain ⟨fuel, rfl⟩ : ∃ n, fuel = n + 1 := ⟨fuel - 1, by omega⟩
    simp [textRest]
  | @cons c cs s t hc _ ih =>
    obtain ⟨fuel, rfl⟩ : ∃ n, fuel = n + 1 := ⟨fuel - 1, by omega⟩
    have ih := fun q => @ih fuel (by simpa using hfuel) q
    rw [List.append_assoc]
    by_cases hs : ∃ s', s = '\\' :: s'
    · obtain ⟨s', rfl⟩ := hs
      simp [textRest, escaped_spelling hc, ih, bind, Except.bind, pure, Except.pure]
    · cases hc with
      | plain hquote hslash hprintable =>
        have hcontrol : ¬ c.toNat < 32 := by omega
        simp [textRest, hquote, hslash, hcontrol, ih, bind, Except.bind, pure, Except.pure]
      | _ => exact absurd ⟨_, rfl⟩ hs

theorem length_le_of_spells {t s : Text} (h : Spells t s) : t.length ≤ s.length := by
  induction h with
  | nil => exact Nat.le_refl 0
  | @cons _ cs s t hc _ ih =>
    have hpos : 1 ≤ s.length := by cases hc <;> simp
    simp only [List.length_cons, List.length_append]
    omega

theorem text_quoted {t q : Text} (h : Quoted t q) (p : Position) (rest : Text) :
    text ⟨p, q ++ rest⟩ = .ok (t, ⟨p.advance q, rest⟩) := by
  obtain ⟨s, hs, rfl⟩ := h
  have hlength := length_le_of_spells hs
  rw [List.cons_append, List.append_assoc, text, skip]
  exact textRest_spells hs (by simp; omega) _ rest

/-! ## Numbers -/

/-- A number ends before the text. -/
def EndsNumber (rest : Text) : Prop :=
  ∀ c ∈ rest.head?, c.isDigit = false ∧ c ≠ '.' ∧ c ≠ 'e' ∧ c ≠ 'E'

theorem endsNumber_blank {c : Char} {b rest : Text} (hb : IsBlankText (c :: b)) :
    EndsNumber (c :: b ++ rest) := by
  intro d hd
  obtain rfl : c = d := by simpa using hd
  have hblank := hb c List.mem_cons_self
  simp only [isBlank, Bool.or_eq_true, decide_eq_true_eq] at hblank
  rcases hblank with ((rfl | rfl) | rfl) | rfl <;> decide

theorem ne_of_isDigit {c d : Char} (hc : c.isDigit = true) (hd : d.isDigit = false) : c ≠ d := by
  rintro rfl
  exact absurd (hc.symm.trans hd) (by decide)

theorem isBlank_of_isDigit {c : Char} (hc : c.isDigit = true) : isBlank c = false := by
  have hspace := ne_of_isDigit hc (d := ' ') rfl
  have hfeed := ne_of_isDigit hc (d := '\n') rfl
  have htab := ne_of_isDigit hc (d := '\t') rfl
  have hreturn := ne_of_isDigit hc (d := '\r') rfl
  simp [isBlank, hspace, hfeed, htab, hreturn]

theorem digits_append {ds rest : Text} (hds : ∀ c ∈ ds, c.isDigit = true)
    (hrest : ∀ c ∈ rest.head?, c.isDigit = false) (p : Position) :
    digits ⟨p, ds ++ rest⟩ = (ds, ⟨p.advance ds, rest⟩) := by
  have htake : (ds ++ rest).takeWhile Char.isDigit = ds := takeWhile_append_stop hds hrest
  simp [digits, htake]

theorem isDigit_of_mem_decimal {n : Nat} {c : Char} (hc : c ∈ decimal n) : c.isDigit = true :=
  Nat.isDigit_of_mem_toDigits (by omega) (by omega) hc

theorem ofDigitChars_decimal (n : Nat) : Nat.ofDigitChars 10 (decimal n) 0 = n :=
  Nat.ofDigitChars_toDigits (by omega) (by omega)

/-- A number begins with a digit, and only zero begins with a zero. -/
theorem decimal_eq_cons (n : Nat) :
    ∃ c cs, decimal n = c :: cs ∧ c.isDigit = true ∧ (c = '0' → n = 0) := by
  induction n using Nat.strongRecOn with
  | _ n ih =>
    by_cases hsmall : n < 10
    · have hvalue : n.digitChar.toNat = 48 + n := Nat.toNat_digitChar_of_lt_ten hsmall
      refine ⟨n.digitChar, [], Nat.toDigits_of_lt_base hsmall, by simp [hsmall], ?_⟩
      intro hzero
      rw [hzero] at hvalue
      have hvalue : 48 = 48 + n := hvalue
      omega
    · have hsplit : decimal n = decimal (n / 10) ++ [(n % 10).digitChar] :=
        Nat.toDigits_of_base_le (by omega) (by omega)
      obtain ⟨c, cs, hc, hdigit, hzero⟩ := ih (n / 10) (by omega)
      refine ⟨c, cs ++ [(n % 10).digitChar], by rw [hsplit, hc, List.cons_append], hdigit, ?_⟩
      intro hc
      have hsmall := hzero hc
      omega

theorem le_ofDigitChars (ds : Text) (n : Nat) : n ≤ Nat.ofDigitChars 10 ds n := by
  induction ds generalizing n with
  | nil => exact Nat.le_refl n
  | cons d ds ih =>
    rw [Nat.ofDigitChars_cons]
    exact Nat.le_trans (by omega) (ih _)

theorem digitValue_eq (d : Char) : Number.digitValue d = d.toNat - '0'.toNat := by
  unfold Number.digitValue
  rfl

/-- Digits all go into the mantissa if their number does. -/
theorem wholePart_eq {ds : Text} {n : Nat} (h : Nat.ofDigitChars 10 ds n ≤ Number.limit) :
    Number.wholePart n ds = (Nat.ofDigitChars 10 ds n, 0) := by
  induction ds generalizing n with
  | nil => rfl
  | cons d ds ih =>
    have hnext : Nat.ofDigitChars 10 (d :: ds) n =
        Nat.ofDigitChars 10 ds (10 * n + Number.digitValue d) := by
      rw [Nat.ofDigitChars_cons, digitValue_eq]
    rw [hnext] at h ⊢
    have hfits : 10 * n + Number.digitValue d ≤ Number.limit :=
      Nat.le_trans (le_ofDigitChars ds _) h
    have hpush : Number.push? n d = some (10 * n + Number.digitValue d) := if_pos hfits
    rw [Number.wholePart, hpush]
    exact ih h

/-- At least one decimal digit. -/
structure AreDigits (ds : Text) : Prop where
  ne_nil : ds ≠ []
  isDigit : ∀ c ∈ ds, c.isDigit = true

/-- The part of a number before the point. It begins with a zero only if it is one. -/
inductive IsWhole : Text → Prop
  | zero : IsWhole ['0']
  | digits {ds : Text} (h : AreDigits ds) (hzero : ds.head? ≠ some '0') : IsWhole ds

theorem isWhole_decimal (n : Nat) : IsWhole (decimal n) := by
  by_cases hn : n = 0
  · subst hn
    exact .zero
  · obtain ⟨c, cs, hc, -, hzero⟩ := decimal_eq_cons n
    refine .digits ⟨by simp [hc], fun c => isDigit_of_mem_decimal⟩ ?_
    intro hhead
    rw [hc, List.head?_cons, Option.some.injEq] at hhead
    exact hn (hzero hhead)

theorem wholeDigits_whole {w : Text} (h : IsWhole w) {rest : Text}
    (hrest : ∀ c ∈ rest.head?, c.isDigit = false) (p : Position) (atEnd : Fault) :
    wholeDigits ⟨p, w ++ rest⟩ atEnd = .ok (w, ⟨p.advance w, rest⟩) := by
  cases h with
  | zero =>
    cases rest with
    | nil => rfl
    | cons c cs =>
      have hdigit := hrest c rfl
      simp [wholeDigits, firstDigit, next?, skip, hdigit, bind, Except.bind, pure, Except.pure]
  | digits h hzero =>
    obtain ⟨c, cs, rfl⟩ := List.exists_cons_of_ne_nil h.ne_nil
    have hdigit := h.isDigit c List.mem_cons_self
    have hzero : c ≠ '0' := fun hc => hzero (congrArg some hc)
    have hall := digits_append h.isDigit hrest p
    rw [List.cons_append] at hall ⊢
    simp [wholeDigits, firstDigit, next?, hdigit, hzero, hall, bind, Except.bind, pure,
      Except.pure]

theorem number_decimal {n : Nat} (hn : n < UInt64.size) {rest : Text} (hrest : EndsNumber rest)
    (p : Position) :
    number false ⟨p, decimal n ++ rest⟩ = .ok (.natural n, ⟨p.advance (decimal n), rest⟩) := by
  have hvalue := ofDigitChars_decimal n
  have hwhole : Number.wholePart 0 (decimal n) = (n, 0) := by
    have hfits : Nat.ofDigitChars 10 (decimal n) 0 ≤ Number.limit := by
      rw [hvalue, Number.limit]
      omega
    rw [wholePart_eq hfits, hvalue]
  have hdigit : ∀ c ∈ rest.head?, c.isDigit = false := fun c hc => (hrest c hc).1
  have hpoint : rest.head? ≠ some '.' := fun h => (hrest '.' h).2.1 rfl
  have hlower : rest.head? ≠ some 'e' := fun h => (hrest 'e' h).2.2.1 rfl
  have hupper : rest.head? ≠ some 'E' := fun h => (hrest 'E' h).2.2.2 rfl
  simp [number, wholeDigits_whole (isWhole_decimal n) hdigit, hwhole, nextIs, next?, hpoint, hlower,
    hupper, bind, Except.bind, pure, Except.pure]

/-! ## Values -/

section

variable {α β : Type}

/-- The reader takes the text as `a`, behind any blanks and before anything that no number goes on
with. -/
def Takes (read : Input → Except Error (α × Input)) (t : Text) (a : α) : Prop :=
  ∀ p b rest, IsBlankText b → EndsNumber rest →
    read ⟨p, b ++ (t ++ rest)⟩ = .ok (a, ⟨p.advance (b ++ t), rest⟩)

/-- The text is passed over, behind any blanks and before anything that no number goes on with. -/
def Skips (t : Text) : Prop :=
  ∀ p b rest, IsBlankText b → EndsNumber rest →
    skipAny ⟨p, b ++ (t ++ rest)⟩ = .ok ⟨p.advance (b ++ t), rest⟩

theorem Takes.map {read : Input → Except Error (α × Input)} {t : Text} {a : α}
    (h : Takes read t a) (f : α → β) :
    Takes (fun i => (read i).map fun (a, j) => (f a, j)) t (f a) := by
  intro p b rest hb hrest
  simp only [h p b rest hb hrest, Except.map]

theorem Takes.unique {read : Input → Except Error (α × Input)} {t : Text} {a a' : α}
    (h : Takes read t a) (h' : Takes read t a') : a = a' := by
  have hends : EndsNumber [] := by simp [EndsNumber]
  have heq := (h .origin [] [] .nil hends).symm.trans (h' .origin [] [] .nil hends)
  exact congrArg Prod.fst (Except.ok.inj heq)

end

theorem takes_bool {b : Bool} {t : Text} (h : Written (.bool b) t) : Takes bool t b := by
  cases h
  intro p blanks rest hblanks _
  cases b <;>
    simp [boolWord, bool, skipBlanks_append hblanks, isBlank, next?, skip, word, Except.map]

theorem takes_natural {n : Nat} {t : Text} (hn : n < UInt64.size) (h : Written (.number n) t) :
    Takes natural t n := by
  cases h
  intro p b rest hb hrest
  obtain ⟨c, cs, hc, hdigit, -⟩ := decimal_eq_cons n
  have hblank := isBlank_of_isDigit hdigit
  have hminus : c ≠ '-' := ne_of_isDigit hdigit rfl
  have hnumber := number_decimal hn hrest (p.advance b)
  rw [hc, List.cons_append] at hnumber ⊢
  simp [natural, skipBlanks_append hb hblank, next?, hdigit, hnumber, bind, Except.bind]

theorem someText_quoted {t q b : Text} (hb : IsBlankText b) (h : Quoted t q) (p : Position)
    (rest : Text) : someText ⟨p, b ++ (q ++ rest)⟩ = .ok (t, ⟨p.advance (b ++ q), rest⟩) := by
  obtain ⟨cs, hq⟩ := h.starts
  have htext := text_quoted h (p.advance b) rest
  rw [hq, List.cons_append] at htext ⊢
  simp [someText, skipBlanks_append hb, isBlank, next?, htext]

theorem takes_optionalText {o : Option Text} {t : Text} (h : Written (.ofOption .text o) t) :
    Takes optionalText t o := by
  intro p b rest hb _
  cases o with
  | none =>
    cases h
    simp [optionalText, skipBlanks_append hb, isBlank, next?, skip, word, Except.map]
  | some t' =>
    cases h with
    | text h =>
      have htext := someText_quoted .nil h (p.advance b) rest
      obtain ⟨cs, hq⟩ := h.starts
      rw [hq, List.nil_append, List.cons_append] at htext
      rw [hq, List.cons_append]
      simp [optionalText, skipBlanks_append hb, isBlank, next?, htext, Except.map]

/-! ## Arrays -/

/-- What stands before an item is passed over. -/
theorem nextItem_quoted {first : Bool} {l : Text} (hl : IsSeparator first l) {t q : Text}
    (hq : Quoted t q) (p : Position) (rest : Text) :
    nextItem first ⟨p, l ++ (q ++ rest)⟩ = .ok (true, ⟨p.advance l, q ++ rest⟩) := by
  obtain ⟨cs, rfl⟩ := hq.starts
  have hquote : isBlank '"' = false := by decide
  cases hl with
  | first hb => simp [nextItem, skipBlanks_append hb hquote, next?]
  | later hb hb' =>
    have hcomma : isBlank ',' = false := by decide
    rw [List.append_assoc, List.cons_append]
    simp [nextItem, skipBlanks_append hb hcomma, skipBlanks_append hb' hquote, next?, skip]

theorem nextItem_close {b : Text} (hb : IsBlankText b) (first : Bool) (p : Position)
    (rest : Text) :
    nextItem first ⟨p, b ++ ']' :: rest⟩ = .ok (false, ⟨p.advance (b ++ [']']), rest⟩) := by
  have hclose : isBlank ']' = false := by decide
  simp [nextItem, skipBlanks_append hb hclose, next?, skip]

theorem textItems_written {first : Bool} {ts : List Text} {t : Text}
    (h : WrittenItems Written first (ts.map .text) t) {fuel : Nat} (hfuel : ts.length < fuel)
    (p : Position) (rest : Text) :
    textItems fuel first ⟨p, t ++ rest⟩ = .ok (ts, ⟨p.advance t, rest⟩) := by
  induction ts generalizing first t fuel p with
  | nil =>
    obtain ⟨fuel, rfl⟩ : ∃ n, fuel = n + 1 := ⟨fuel - 1, by omega⟩
    cases h with
    | close hb =>
      simp [textItems, nextItem_close hb, bind, Except.bind, pure, Except.pure]
  | cons s ts ih =>
    obtain ⟨fuel, rfl⟩ : ∃ n, fuel = n + 1 := ⟨fuel - 1, by omega⟩
    cases h with
    | @item _ _ _ l q t hl ha h =>
      cases ha with
      | text hq =>
        have hitem := nextItem_quoted hl hq p (t ++ rest)
        have htext := someText_quoted .nil hq (p.advance l) (t ++ rest)
        have hitems := ih h (Nat.lt_of_succ_lt_succ hfuel) ((p.advance l).advance q)
        rw [List.nil_append] at htext
        simp only [List.append_assoc, textItems, hitem, htext, hitems, bind, Except.bind,
          List.nil_append, ↓reduceIte, pure, Except.pure, Position.advance_append]

theorem takes_texts {ts : List Text} {t : Text} (h : Written (.array (ts.map .text)) t) :
    Takes texts t ts := by
  intro p b rest hb _
  cases h with
  | @array _ t h =>
    have hlength := h.length_le
    have hopen : isBlank '[' = false := by decide
    rw [List.length_map] at hlength
    simp only [texts, List.cons_append, skipBlanks_append hb hopen, next?, List.head?_cons, skip]
    rw [textItems_written h (by simp; omega)]
    simp

/-! ## Objects -/

theorem nextMember_key {first : Bool} {l : Text} (hl : IsSeparator first l) {k q : Text}
    (hq : Quoted k q) (p : Position) (rest : Text) :
    nextMember first ⟨p, l ++ (q ++ rest)⟩ = .ok (true, ⟨p.advance l, q ++ rest⟩) := by
  obtain ⟨cs, rfl⟩ := hq.starts
  have hquote : isBlank '"' = false := by decide
  have hbrace : '"' ≠ closeBrace := by decide
  cases hl with
  | first hb => simp [nextMember, skipBlanks_append hb hquote, next?, hbrace]
  | later hb hb' =>
    have hcomma : isBlank ',' = false := by decide
    have hbrace' : ',' ≠ closeBrace := by decide
    rw [List.append_assoc, List.cons_append]
    simp [nextMember, skipBlanks_append hb hcomma, skipBlanks_append hb' hquote, next?, skip,
      hbrace']

theorem endsNumber_append {b rest : Text} (hb : IsBlankText b) (hrest : EndsNumber rest) :
    EndsNumber (b ++ rest) := by
  cases b with
  | nil => exact hrest
  | cons c b => exact endsNumber_blank hb

theorem endsNumber_cons {c : Char} (hc : c = ',' ∨ c = ']' ∨ c = closeBrace) (cs : Text) :
    EndsNumber (c :: cs) := by
  intro d hd
  obtain rfl := Option.some.inj hd
  rcases hc with rfl | rfl | rfl <;> decide

/-- No number goes on behind the value of a member. -/
theorem endsNumber_members {α : Type} {W : α → Text → Prop} {ms : List (Text × α)} {t : Text}
    (h : WrittenMembers W false ms t) (rest : Text) : EndsNumber (t ++ rest) := by
  cases h with
  | close hb =>
    rw [List.append_assoc]
    exact endsNumber_append hb (endsNumber_cons (.inr (.inr rfl)) rest)
  | member hl =>
    cases hl with
    | later hb =>
      simp only [List.append_assoc, List.cons_append]
      exact endsNumber_append hb (endsNumber_cons (.inl rfl) _)

theorem nextMember_close {b : Text} (hb : IsBlankText b) (first : Bool) (p : Position)
    (rest : Text) :
    nextMember first ⟨p, b ++ closeBrace :: rest⟩ =
      .ok (false, ⟨p.advance (b ++ [closeBrace]), rest⟩) := by
  have hclose : isBlank closeBrace = false := by decide
  simp [nextMember, skipBlanks_append hb hclose, next?, skip]

theorem colon_append {b : Text} (hb : IsBlankText b) (p : Position) (cs : Text) :
    colon ⟨p, b ++ ':' :: cs⟩ = .ok ⟨p.advance (b ++ [':']), cs⟩ := by
  have hcolon : isBlank ':' = false := by decide
  simp [colon, skipBlanks_append hb hcolon, next?, skip]

section

variable {σ ρ α : Type} (read : ρ → Input → Except Error ((σ → σ) × Input))
  (slots : List (String × ρ)) (W : α → Text → Prop)

/-- What a member of an object does to a record: what its value is read as for a slot with its name,
and nothing if there is no such slot. -/
inductive Effect : Text × α → (σ → σ) → Prop
  | slot {k : Text} {a : α} {r : ρ} {f : σ → σ} (hslot : slot? slots k = some r)
      (hread : ∀ t, W a t → Takes (read r) t f) : Effect (k, a) f
  | other {k : Text} {a : α} (hslot : slot? slots k = none) (hskip : ∀ t, W a t → Skips t) :
      Effect (k, a) id

variable {read slots W}

/-- What the members of an object do to a record, they do one after the other. No name of a slot
may be there twice. -/
theorem slotMembers_written {first : Bool} {ms : List (Text × α)} {t : Text}
    (h : WrittenMembers W first ms t) {fs : List (σ → σ)}
    (hfs : List.Forall₂ (Effect read slots W) ms fs)
    (hkeys : ms.Pairwise fun m m' => m.1 = m'.1 → slot? slots m.1 = none) {seen : List Text}
    (hseen : ∀ m ∈ ms, m.1 ∈ seen → slot? slots m.1 = none) {fuel : Nat}
    (hfuel : ms.length < fuel) (s : σ) (p : Position) (rest : Text) :
    slotMembers read slots fuel first seen s ⟨p, t ++ rest⟩ =
      .ok (fs.foldl (fun s f => f s) s, ⟨p.advance t, rest⟩) := by
  induction h generalizing fs seen fuel s p with
  | close hb =>
    obtain ⟨fuel, rfl⟩ : ∃ n, fuel = n + 1 := ⟨fuel - 1, by omega⟩
    cases hfs
    simp [slotMembers, nextMember_close hb, bind, Except.bind, pure, Except.pure]
  | @member first k a ms l q b b' t rest' hl hq hb hb' ha h ih =>
    obtain ⟨fuel, rfl⟩ : ∃ n, fuel = n + 1 := ⟨fuel - 1, by omega⟩
    obtain ⟨hkey, hkeys⟩ := List.pairwise_cons.mp hkeys
    have hends : EndsNumber (rest' ++ rest) := endsNumber_members h rest
    have hnext := nextMember_key hl hq p (b ++ ':' :: (b' ++ (t ++ (rest' ++ rest))))
    have htext := text_quoted hq (p.advance l) (b ++ ':' :: (b' ++ (t ++ (rest' ++ rest))))
    have hcolon := colon_append hb ((p.advance l).advance q) (b' ++ (t ++ (rest' ++ rest)))
    cases hfs with
    | @cons _ f _ fs hf hfs =>
      cases hf with
      | @slot _ _ r _ hslot hread =>
        have hfresh : seen.contains k = false := by
          rw [Bool.eq_false_iff]
          intro hk
          have hnone := hseen (k, a) List.mem_cons_self (by simpa using hk)
          exact absurd (hslot.symm.trans hnone) (by simp)
        have hlater : ∀ m ∈ ms, m.1 ∈ k :: seen → slot? slots m.1 = none := by
          intro m hm hmem
          rcases List.mem_cons.mp hmem with hk | hmem
          · exact absurd (hslot.symm.trans (hkey m hm hk.symm)) (by simp)
          · exact hseen m (List.mem_cons_of_mem _ hm) hmem
        have hvalue := hread t ha (((p.advance l).advance q).advance (b ++ [':'])) b'
          (rest' ++ rest) hb' hends
        have hmembers := ih hfs hkeys hlater (Nat.lt_of_succ_lt_succ hfuel) (f s)
          ((((p.advance l).advance q).advance (b ++ [':'])).advance (b' ++ t))
        simp only [List.append_assoc, List.cons_append, slotMembers, hnext, htext, hslot, hfresh,
          hcolon, hvalue, hmembers, bind, Except.bind, ↓reduceIte, Bool.false_eq_true,
          List.foldl_cons]
        simp
      | other hslot hskip =>
        have hvalue := hskip t ha (((p.advance l).advance q).advance (b ++ [':'])) b'
          (rest' ++ rest) hb' hends
        have hlater : ∀ m ∈ ms, m.1 ∈ seen → slot? slots m.1 = none :=
          fun m hm => hseen m (List.mem_cons_of_mem _ hm)
        have hmembers := ih hfs hkeys hlater (Nat.lt_of_succ_lt_succ hfuel) s
          ((((p.advance l).advance q).advance (b ++ [':'])).advance (b' ++ t))
        simp only [List.append_assoc, List.cons_append, slotMembers, hnext, htext, hslot,
          hcolon, hvalue, hmembers, bind, Except.bind, ↓reduceIte, id_eq,
          List.foldl_cons]
        simp

/-- Members whose names all differ are allowed. -/
theorem pairwise_of_nodup {ms : List (Text × α)} (h : (ms.map (·.1)).Nodup) :
    ms.Pairwise fun m m' => m.1 = m'.1 → slot? slots m.1 = none :=
  (List.pairwise_map.mp h).imp fun hne heq => absurd heq hne

theorem takes_record {ms : List (Text × α)} {t : Text} (h : WrittenMembers W true ms t)
    {fs : List (σ → σ)} (hfs : List.Forall₂ (Effect read slots W) ms fs)
    (hkeys : ms.Pairwise fun m m' => m.1 = m'.1 → slot? slots m.1 = none) (title : String) (s : σ) :
    Takes (record read title slots s) (openBrace :: t) (fs.foldl (fun s f => f s) s) := by
  intro p b rest hb _
  have hopen : isBlank openBrace = false := by decide
  have hopen' : openBrace ≠ '[' := by decide
  have hseen : ∀ m ∈ ms, m.1 ∈ ([] : List Text) → slot? slots m.1 = none := by simp
  have hfuel : ms.length < (openBrace :: (t ++ rest)).length + 1 := by
    have hlength := h.length_le
    simp only [↓reduceIte, Nat.add_zero] at hlength
    simp only [List.length_cons, List.length_append]
    omega
  have hmembers := slotMembers_written h hfs hkeys hseen hfuel s
    ((p.advance b).next openBrace) rest
  simpa [record, skipBlanks_append hb hopen, next?, skip] using hmembers

end

theorem finish_blank {b : Text} (hb : IsBlankText b) (p : Position) : finish ⟨p, b⟩ = .ok () := by
  have hall : b.takeWhile isBlank = b := List.takeWhile_eq_self_iff.mpr hb
  simp [finish, skipBlanks, hall, next?]

end Input

end ScriptStyle.Json
