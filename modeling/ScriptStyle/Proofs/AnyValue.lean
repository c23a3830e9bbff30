import ScriptStyle.Proofs.ReadBack

/-!
# Values that are passed over

What a member is worth that nobody asks for makes no difference, as long as it is a value at all.
`IsValue` says which texts are values, whether or not they can be made sense of: a number may be too
great for any type, and half of a surrogate pair may stand alone between quotes. Every value is
passed over (`skips_of_isValue`), however deep arrays and objects are nested in it.
-/

namespace ScriptStyle.Json

open Input (AreDigits IsWhole isBlank simpleEscape?)

/-! ## Numbers -/

/-- The part of a number from the point on, which may be missing. -/
inductive IsFraction : Text → Prop
  | missing : IsFraction []
  | digits {ds : Text} (h : AreDigits ds) : IsFraction ('.' :: ds)

/-- The sign of an exponent, which may be missing. -/
inductive IsSign : Text → Prop
  | missing : IsSign []
  | plus : IsSign ['+']
  | minus : IsSign ['-']

/-- The exponent of a number, which may be missing. -/
inductive IsExponent : Text → Prop
  | missing : IsExponent []
  | digits {e : Char} {s ds : Text} (he : e = 'e' ∨ e = 'E') (hs : IsSign s) (h : AreDigits ds) :
      IsExponent (e :: (s ++ ds))

/-- A number without a minus sign. -/
inductive IsUnsigned : Text → Prop
  | parts {w f e : Text} (hw : IsWhole w) (hf : IsFraction f) (he : IsExponent e) :
      IsUnsigned (w ++ (f ++ e))

/-! ## Texts between quotes -/

/-- A character between quotes or an escape, of which four digits may be half of a pair. -/
inductive IsMark : Text → Prop
  | plain {c : Char} (hquote : c ≠ '"') (hslash : c ≠ '\\') (hprintable : 32 ≤ c.toNat) :
      IsMark [c]
  | simple {c d : Char} (h : simpleEscape? d = some c) : IsMark ['\\', d]
  | code {n : Nat} {ds : Text} (h : IsCode ds n) : IsMark ('\\' :: 'u' :: ds)

/-- Characters and escapes, one after the other. -/
inductive AreMarks : Text → Prop
  | nil : AreMarks []
  | cons {s t : Text} (hs : IsMark s) (h : AreMarks t) : AreMarks (s ++ t)

/-- Characters and escapes in quotes. -/
inductive IsQuotation : Text → Prop
  | quotes {s : Text} (h : AreMarks s) : IsQuotation ('"' :: (s ++ ['"']))

/-! ## Values -/

mutual

/-- The text is a value. -/
inductive IsValue : Text → Prop
  | null : IsValue "null".toList
  | bool (b : Bool) : IsValue (boolWord b)
  | unsigned {t : Text} (h : IsUnsigned t) : IsValue t
  | negative {t : Text} (h : IsUnsigned t) : IsValue ('-' :: t)
  | quotation {t : Text} (h : IsQuotation t) : IsValue t
  | array {t : Text} (h : AreItems true t) : IsValue ('[' :: t)
  | object {t : Text} (h : AreMembers true t) : IsValue (openBrace :: t)

/-- The items of an array that are left, with what closes it. -/
inductive AreItems : Bool → Text → Prop
  | close {first : Bool} {b : Text} (hb : IsBlankText b) : AreItems first (b ++ [']'])
  | item {first : Bool} {l t rest : Text} (hl : IsSeparator first l) (ht : IsValue t)
      (h : AreItems false rest) : AreItems first (l ++ (t ++ rest))

/-- The members of an object that are left, with what closes it. -/
inductive AreMembers : Bool → Text → Prop
  | close {first : Bool} {b : Text} (hb : IsBlankText b) : AreMembers first (b ++ [closeBrace])
  | member {first : Bool} {l q b b' t rest : Text} (hl : IsSeparator first l) (hq : IsQuotation q)
      (hb : IsBlankText b) (hb' : IsBlankText b') (ht : IsValue t) (h : AreMembers false rest) :
      AreMembers first (l ++ (q ++ (b ++ ':' :: (b' ++ (t ++ rest)))))

end

namespace Input

/-! ## Scalars are passed over -/

theorem exponent_head {e rest : Text} (he : IsExponent e) (hrest : EndsNumber rest) :
    ∀ c ∈ (e ++ rest).head?, c.isDigit = false ∧ c ≠ '.' := by
  cases he with
  | missing => exact fun c hc => ⟨(hrest c hc).1, (hrest c hc).2.1⟩
  | digits he =>
    intro c hc
    obtain rfl := Option.some.inj hc
    rcases he with rfl | rfl <;> decide

theorem fraction_head {f e rest : Text} (hf : IsFraction f) (he : IsExponent e)
    (hrest : EndsNumber rest) : ∀ c ∈ (f ++ (e ++ rest)).head?, c.isDigit = false := by
  cases hf with
  | missing => exact fun c hc => (exponent_head he hrest c hc).1
  | digits =>
    intro c hc
    obtain rfl := Option.some.inj hc
    decide

theorem skipSign_sign {s ds : Text} (hs : IsSign s) (h : AreDigits ds) (p : Position)
    (rest : Text) : skipSign ⟨p, s ++ (ds ++ rest)⟩ = ⟨p.advance s, ds ++ rest⟩ := by
  cases hs with
  | missing =>
    obtain ⟨c, cs, rfl⟩ := List.exists_cons_of_ne_nil h.ne_nil
    have hdigit := h.isDigit c List.mem_cons_self
    have hplus : c ≠ '+' := ne_of_isDigit hdigit rfl
    have hminus : c ≠ '-' := ne_of_isDigit hdigit rfl
    simp [skipSign, nextIs, next?, hplus, hminus]
  | plus => rfl
  | minus => rfl

theorem firstDigit_digits {ds : Text} (h : AreDigits ds) (p : Position) (rest : Text)
    (atEnd : Fault) : firstDigit ⟨p, ds ++ rest⟩ atEnd = .ok () := by
  obtain ⟨c, cs, rfl⟩ := List.exists_cons_of_ne_nil h.ne_nil
  have hdigit := h.isDigit c List.mem_cons_self
  simp [firstDigit, next?, hdigit]

/-- The input behind the point of a number and the digits that follow it, if there is one. -/
def skipFraction (i : Input) : Except Error Input :=
  if i.next? = some '.' then
    if i.skip.digits.1.isEmpty then i.skip.digits.2.failNext .badNumber else .ok i.skip.digits.2
  else .ok i

/-- The input behind the exponent of a number, if there is one. -/
def skipExponent (i : Input) : Except Error Input :=
  if i.nextIs 'e' 'E' then
    (i.skip.skipSign.firstDigit .badNumber).map fun _ => i.skip.skipSign.digits.2
  else .ok i

theorem skipNumber_eq (i : Input) : skipNumber i =
    (i.wholeDigits .badNumber).bind fun (_, i) => i.skipFraction.bind skipExponent := by
  rw [skipNumber]
  cases i.wholeDigits .badNumber with
  | error e => rfl
  | ok x =>
    simp only [bind, Except.bind, pure, Except.pure, skipFraction]
    split
    · split <;> rfl
    · rfl

theorem skipFraction_fraction {f : Text} (hf : IsFraction f) {rest : Text}
    (hrest : ∀ c ∈ rest.head?, c.isDigit = false ∧ c ≠ '.') (p : Position) :
    skipFraction ⟨p, f ++ rest⟩ = .ok ⟨p.advance f, rest⟩ := by
  cases hf with
  | missing =>
    have hpoint : rest.head? ≠ some '.' := fun h => (hrest '.' h).2 rfl
    simp [skipFraction, next?, hpoint]
  | @digits ds h =>
    have hds : ds ≠ [] := h.ne_nil
    have hall := digits_append h.isDigit (fun c hc => (hrest c hc).1) (p.next '.')
    simp [skipFraction, next?, skip, hall, hds]

theorem skipExponent_exponent {e : Text} (he : IsExponent e) {rest : Text}
    (hrest : EndsNumber rest) (p : Position) :
    skipExponent ⟨p, e ++ rest⟩ = .ok ⟨p.advance e, rest⟩ := by
  cases he with
  | missing =>
    have hlower : rest.head? ≠ some 'e' := fun h => (hrest 'e' h).2.2.1 rfl
    have hupper : rest.head? ≠ some 'E' := fun h => (hrest 'E' h).2.2.2 rfl
    simp [skipExponent, nextIs, next?, hlower, hupper]
  | @digits e s ds he hs h =>
    have hnext : nextIs ⟨p, e :: (s ++ ds) ++ rest⟩ 'e' 'E' = true := by
      rcases he with rfl | rfl <;> rfl
    have hsign := skipSign_sign hs h (p.next e) rest
    have hfirst := firstDigit_digits h ((p.next e).advance s) rest .badNumber
    have hall := digits_append h.isDigit (fun c hc => (hrest c hc).1) ((p.next e).advance s)
    rw [skipExponent, if_pos hnext]
    simp [skip, hsign, hfirst, hall, Except.map]

theorem skipNumber_unsigned {t : Text} (h : IsUnsigned t) {rest : Text} (hrest : EndsNumber rest)
    (p : Position) : skipNumber ⟨p, t ++ rest⟩ = .ok ⟨p.advance t, rest⟩ := by
  cases h with
  | @parts w f e hw hf he =>
    have hwhole := wholeDigits_whole hw (fraction_head hf he hrest) p .badNumber
    have hfraction := skipFraction_fraction hf (exponent_head he hrest) (p.advance w)
    have hexponent := skipExponent_exponent he hrest ((p.advance w).advance f)
    simp [skipNumber_eq, hwhole, hfraction, hexponent, Except.bind]

theorem skipTextRest_marks {s : Text} (h : AreMarks s) {fuel : Nat} (hfuel : s.length < fuel)
    (p : Position) (rest : Text) :
    skipTextRest fuel ⟨p, s ++ '"' :: rest⟩ = .ok ⟨p.advance (s ++ ['"']), rest⟩ := by
  induction h generalizing fuel p with
  | nil =>
    obtain ⟨fuel, rfl⟩ : ∃ n, fuel = n + 1 := ⟨fuel - 1, by omega⟩
    simp [skipTextRest]
  | @cons s t hs _ ih =>
    obtain ⟨fuel, rfl⟩ : ∃ n, fuel = n + 1 := ⟨fuel - 1, by omega⟩
    have hpos : 1 ≤ s.length := by cases hs <;> simp
    have hlength : t.length < fuel := by
      rw [List.length_append] at hfuel
      omega
    have hlater (q : Position) :
        skipTextRest fuel ⟨q, t ++ '"' :: rest⟩ = .ok ⟨q.advance (t ++ ['"']), rest⟩ := ih hlength q
    rw [List.append_assoc]
    cases hs with
    | @plain c hquote hslash hprintable =>
      have hcontrol : ¬ c.toNat < 32 := by omega
      simp [skipTextRest, hquote, hslash, hcontrol, hlater]
    | @simple c d h =>
      have hd : d ≠ 'u' := by
        rintro rfl
        simp [simpleEscape?] at h
      simp [skipTextRest, hd, h, hlater]
    | code h => simp [skipTextRest, hexDigits_code h, hlater, bind, Except.bind]

theorem skipText_quotation {q : Text} (h : IsQuotation q) (p : Position) (rest : Text) :
    skipText ⟨p, q ++ rest⟩ = .ok ⟨p.advance q, rest⟩ := by
  cases h with
  | @quotes s h =>
    have hfuel : s.length < ('"' :: (s ++ ['"']) ++ rest).length + 1 := by
      simp only [List.length_cons, List.length_append]
      omega
    have hmarks := skipTextRest_marks h hfuel (p.next '"') rest
    simpa [skipText, skip] using hmarks

/-! ## Every value is passed over -/

/-- The text is passed over with as much fuel as it has characters. -/
structure Passes (t : Text) : Prop where
  starts : ∃ c cs, t = c :: cs ∧ isBlank c = false ∧ c ≠ ']'
  passes : ∀ fuel p b rest, t.length ≤ fuel → IsBlankText b → EndsNumber rest →
    skipValue fuel ⟨p, b ++ (t ++ rest)⟩ = .ok ⟨p.advance (b ++ t), rest⟩

/-- The text goes on with an array behind an item and ends the array. -/
def EndsArray (u : Text) : Prop :=
  ∀ t fuel p b rest, Passes t → (t ++ u).length ≤ fuel → IsBlankText b →
    skipItems fuel ⟨p, b ++ (t ++ (u ++ rest))⟩ = .ok ⟨p.advance (b ++ (t ++ u)), rest⟩

theorem passes_null : Passes "null".toList := by
  refine ⟨⟨_, _, rfl, by decide, by decide⟩, ?_⟩
  intro fuel p b rest hfuel hb _
  obtain ⟨fuel, rfl⟩ : ∃ n, fuel = n + 1 := ⟨fuel - 1, by simp at hfuel; omega⟩
  simp [skipValue, skipBlanks_append hb, isBlank, next?, skip, word]

theorem passes_bool (v : Bool) : Passes (boolWord v) := by
  refine ⟨by cases v <;> exact ⟨_, _, rfl, by decide, by decide⟩, ?_⟩
  intro fuel p b rest hfuel hb _
  have hpos : 0 < (boolWord v).length := by cases v <;> decide
  obtain ⟨fuel, rfl⟩ : ∃ n, fuel = n + 1 := ⟨fuel - 1, by omega⟩
  cases v <;> simp [boolWord, skipValue, skipBlanks_append hb, isBlank, next?, skip, word]

theorem passes_quotation {t : Text} (h : IsQuotation t) : Passes t := by
  have htext := skipText_quotation h
  cases h with
  | @quotes s h =>
    refine ⟨⟨_, _, rfl, by decide, by decide⟩, ?_⟩
    intro fuel p b rest hfuel hb _
    obtain ⟨fuel, rfl⟩ : ∃ n, fuel = n + 1 := ⟨fuel - 1, by simp at hfuel; omega⟩
    have htext := htext (p.advance b) rest
    simpa [skipValue, skipBlanks_append hb, isBlank, next?] using htext

theorem exists_digit_of_isUnsigned {t : Text} (h : IsUnsigned t) :
    ∃ c cs, t = c :: cs ∧ c.isDigit = true := by
  cases h with
  | @parts w f e hw hf he =>
    cases hw with
    | zero => exact ⟨_, _, rfl, by decide⟩
    | digits h =>
      obtain ⟨c, cs, rfl⟩ := List.exists_cons_of_ne_nil h.ne_nil
      exact ⟨c, _, rfl, h.isDigit c List.mem_cons_self⟩

theorem passes_unsigned {t : Text} (h : IsUnsigned t) : Passes t := by
  obtain ⟨c, cs, rfl, hdigit⟩ := exists_digit_of_isUnsigned h
  have hne (d : Char) (hd : d.isDigit = false) : c ≠ d := ne_of_isDigit hdigit hd
  have hblank := isBlank_of_isDigit hdigit
  refine ⟨⟨c, cs, rfl, hblank, hne ']' rfl⟩, ?_⟩
  intro fuel p b rest hfuel hb hrest
  obtain ⟨fuel, rfl⟩ : ∃ n, fuel = n + 1 := ⟨fuel - 1, by simp at hfuel; omega⟩
  have hnumber := skipNumber_unsigned h hrest (p.advance b)
  -- A value that begins with a digit is none of the other ones.
  simpa [skipValue, skipBlanks_append hb hblank, next?, hdigit, hne 'n' rfl, hne 't' rfl,
    hne 'f' rfl, hne '-' rfl, hne '"' rfl, hne '[' rfl, hne openBrace rfl] using hnumber

theorem passes_negative {t : Text} (h : IsUnsigned t) : Passes ('-' :: t) := by
  refine ⟨⟨_, _, rfl, by decide, by decide⟩, ?_⟩
  intro fuel p b rest hfuel hb hrest
  obtain ⟨fuel, rfl⟩ : ∃ n, fuel = n + 1 := ⟨fuel - 1, by simp at hfuel; omega⟩
  have hnumber := skipNumber_unsigned h hrest ((p.advance b).next '-')
  simp [skipValue, skipBlanks_append hb, isBlank, next?, skip, hnumber]

/-! ### Arrays -/

theorem passes_array_close {b : Text} (hb : IsBlankText b) : Passes ('[' :: (b ++ [']'])) := by
  refine ⟨⟨_, _, rfl, by decide, by decide⟩, ?_⟩
  intro fuel p b' rest hfuel hb' _
  obtain ⟨fuel, rfl⟩ : ∃ n, fuel = n + 1 := ⟨fuel - 1, by simp at hfuel; omega⟩
  simp [skipValue, skipBlanks_append hb', skipBlanks_append hb, isBlank, next?, skip]

theorem endsArray_close {b : Text} (hb : IsBlankText b) : EndsArray (b ++ [']']) := by
  intro t fuel p b' rest ht hfuel hb'
  obtain ⟨fuel, rfl⟩ : ∃ n, fuel = n + 1 := ⟨fuel - 1, by simp at hfuel; omega⟩
  have hends : EndsNumber (b ++ [']'] ++ rest) := by
    rw [List.append_assoc]
    exact endsNumber_append hb (endsNumber_cons (.inr (.inl rfl)) rest)
  have hvalue := ht.passes fuel p b' _ (by simp at hfuel; omega) hb' hends
  have hclose : isBlank ']' = false := by decide
  simp only [skipItems, hvalue, bind, Except.bind]
  simp [skipBlanks_append hb hclose, next?, skip]

theorem passes_array_item {l t u : Text} (hl : IsBlankText l) (ht : Passes t) (hu : EndsArray u) :
    Passes ('[' :: (l ++ (t ++ u))) := by
  refine ⟨⟨_, _, rfl, by decide, by decide⟩, ?_⟩
  intro fuel p b rest hfuel hb _
  obtain ⟨fuel, rfl⟩ : ∃ n, fuel = n + 1 := ⟨fuel - 1, by simp at hfuel; omega⟩
  obtain ⟨c, cs, rfl, hblank, hclose⟩ := ht.starts
  have hitems := hu _ fuel (((p.advance b).next '[').advance l) [] rest ht
    (by simp at hfuel ⊢; omega) .nil
  simpa [skipValue, skipBlanks_append hb, skipBlanks_append hl hblank, isBlank, next?, skip,
    hclose] using hitems

theorem endsArray_item {l l' t u : Text} (hl : IsBlankText l) (hl' : IsBlankText l')
    (ht : Passes t) (hu : EndsArray u) : EndsArray (l ++ ',' :: l' ++ (t ++ u)) := by
  intro s fuel p b rest hs hfuel hb
  obtain ⟨fuel, rfl⟩ : ∃ n, fuel = n + 1 := ⟨fuel - 1, by simp at hfuel; omega⟩
  have hends : EndsNumber (l ++ ',' :: l' ++ (t ++ u) ++ rest) := by
    rw [List.append_assoc, List.append_assoc]
    exact endsNumber_append hl (endsNumber_cons (.inl rfl) _)
  have hvalue := hs.passes fuel p b _ (by simp at hfuel; omega) hb hends
  have hcomma : isBlank ',' = false := by decide
  have hitems := hu t fuel ((p.advance (b ++ s)).advance (l ++ [','])) l' rest ht
    (by simp at hfuel ⊢; omega) hl'
  simp only [skipItems, hvalue, bind, Except.bind]
  simpa [skipBlanks_append hl hcomma, next?, skip] using hitems

/-! ### Objects -/

/-- The text goes on with an object behind a member and ends the object. -/
def EndsObject (u : Text) : Prop :=
  ∀ q c c' t fuel p b rest, IsQuotation q → IsBlankText c → IsBlankText c' → Passes t →
    (t ++ u).length ≤ fuel → IsBlankText b →
    skipMembers fuel ⟨p, b ++ (q ++ (c ++ ':' :: (c' ++ (t ++ (u ++ rest)))))⟩ =
      .ok ⟨p.advance (b ++ (q ++ (c ++ ':' :: (c' ++ (t ++ u))))), rest⟩

/-- The input behind an object, from behind the value of a member on. -/
def skipMembersBehind (fuel : Nat) (i : Input) : Except Error Input :=
  match i.skipBlanks.next? with
  | some ',' => skipMembers fuel i.skipBlanks.skip
  | some c => if c = closeBrace then .ok i.skipBlanks.skip else i.skipBlanks.failNext .noObjectEnd
  | none => i.skipBlanks.failNext .unfinishedObject

theorem skipMembers_succ {q c c' t : Text} (hq : IsQuotation q) (hc : IsBlankText c)
    (hc' : IsBlankText c') (ht : Passes t) {b : Text} (hb : IsBlankText b) {fuel : Nat}
    (hfuel : t.length ≤ fuel) {rest : Text} (hrest : EndsNumber rest) (p : Position) :
    skipMembers (fuel + 1) ⟨p, b ++ (q ++ (c ++ ':' :: (c' ++ (t ++ rest))))⟩ =
      skipMembersBehind fuel ⟨p.advance (b ++ (q ++ (c ++ ':' :: (c' ++ t)))), rest⟩ := by
  obtain ⟨cs, hcs⟩ : ∃ cs, q = '"' :: cs := by
    cases hq
    exact ⟨_, rfl⟩
  have htext := skipText_quotation hq (p.advance b) (c ++ ':' :: (c' ++ (t ++ rest)))
  have hcolon := colon_append hc ((p.advance b).advance q) (c' ++ (t ++ rest))
  have hvalue := ht.passes fuel (((p.advance b).advance q).advance (c ++ [':'])) c' rest hfuel hc'
    hrest
  have hquote : isBlank '"' = false := by decide
  have hblanks : skipBlanks ⟨p, b ++ (q ++ (c ++ ':' :: (c' ++ (t ++ rest))))⟩ =
      ⟨p.advance b, q ++ (c ++ ':' :: (c' ++ (t ++ rest)))⟩ := by
    rw [hcs, List.cons_append, skipBlanks_append hb hquote]
  have hnext : next? ⟨p.advance b, q ++ (c ++ ':' :: (c' ++ (t ++ rest)))⟩ = some '"' := by
    rw [hcs]
    rfl
  have hplace : (((p.advance b).advance q).advance (c ++ [':'])).advance (c' ++ t) =
      p.advance (b ++ (q ++ (c ++ ':' :: (c' ++ t)))) := by simp
  simp only [skipMembers, hblanks, hnext, htext, hcolon, hvalue, hplace, bind, Except.bind]
  rfl

/-- A value that begins with a brace is passed over like an object. -/
theorem skipValue_openBrace {b : Text} (hb : IsBlankText b) (fuel : Nat) (p : Position)
    (cs : Text) : skipValue (fuel + 1) ⟨p, b ++ openBrace :: cs⟩ =
      match (skipBlanks ⟨(p.advance b).next openBrace, cs⟩).next? with
      | none => (skipBlanks ⟨(p.advance b).next openBrace, cs⟩).failNext .unfinishedObject
      | some d =>
        if d = closeBrace then .ok (skipBlanks ⟨(p.advance b).next openBrace, cs⟩).skip
        else skipMembers fuel (skipBlanks ⟨(p.advance b).next openBrace, cs⟩) := by
  have hopen : isBlank openBrace = false := by decide
  rw [skipValue, skipBlanks_append hb hopen]
  rfl

theorem passes_object_close {b : Text} (hb : IsBlankText b) :
    Passes (openBrace :: (b ++ [closeBrace])) := by
  refine ⟨⟨_, _, rfl, by decide, by decide⟩, ?_⟩
  intro fuel p b' rest hfuel hb' _
  obtain ⟨fuel, rfl⟩ : ∃ n, fuel = n + 1 := ⟨fuel - 1, by simp at hfuel; omega⟩
  have hclose : isBlank closeBrace = false := by decide
  rw [List.cons_append, skipValue_openBrace hb', List.append_assoc, List.singleton_append,
    skipBlanks_append hb hclose]
  simp [next?, skip]

theorem endsObject_close {b : Text} (hb : IsBlankText b) : EndsObject (b ++ [closeBrace]) := by
  intro q c c' t fuel p b' rest hq hc hc' ht hfuel hb'
  obtain ⟨fuel, rfl⟩ : ∃ n, fuel = n + 1 := ⟨fuel - 1, by simp at hfuel; omega⟩
  have hends : EndsNumber (b ++ [closeBrace] ++ rest) := by
    rw [List.append_assoc]
    exact endsNumber_append hb (endsNumber_cons (.inr (.inr rfl)) rest)
  have hclose : isBlank closeBrace = false := by decide
  have hbehind (p : Position) : skipMembersBehind fuel ⟨p, b ++ closeBrace :: rest⟩ =
      .ok ⟨p.advance (b ++ [closeBrace]), rest⟩ := by
    rw [skipMembersBehind, skipBlanks_append hb hclose, Position.advance_append]
    rfl
  rw [skipMembers_succ hq hc hc' ht hb' (by simp at hfuel; omega) hends, List.append_assoc,
    List.singleton_append, hbehind]
  simp

theorem passes_object_member {l q c c' t u : Text} (hl : IsBlankText l) (hq : IsQuotation q)
    (hc : IsBlankText c) (hc' : IsBlankText c') (ht : Passes t) (hu : EndsObject u) :
    Passes (openBrace :: (l ++ (q ++ (c ++ ':' :: (c' ++ (t ++ u)))))) := by
  refine ⟨⟨_, _, rfl, by decide, by decide⟩, ?_⟩
  intro fuel p b rest hfuel hb _
  obtain ⟨fuel, rfl⟩ : ∃ n, fuel = n + 1 := ⟨fuel - 1, by simp at hfuel; omega⟩
  have hmembers := hu q c c' t fuel (((p.advance b).next openBrace).advance l) [] rest hq hc
    hc' ht (by simp at hfuel ⊢; omega) .nil
  obtain ⟨cs, rfl⟩ : ∃ cs, q = '"' :: cs := by
    cases hq
    exact ⟨_, rfl⟩
  have hquote : isBlank '"' = false := by decide
  have hclose : '"' ≠ closeBrace := by decide
  rw [List.cons_append, skipValue_openBrace hb, List.append_assoc, List.cons_append,
    List.cons_append, skipBlanks_append hl hquote]
  simpa [next?, hclose] using hmembers

theorem endsObject_member {l l' q c c' t u : Text} (hl : IsBlankText l) (hl' : IsBlankText l')
    (hq : IsQuotation q) (hc : IsBlankText c) (hc' : IsBlankText c') (ht : Passes t)
    (hu : EndsObject u) : EndsObject (l ++ ',' :: l' ++ (q ++ (c ++ ':' :: (c' ++ (t ++ u))))) := by
  intro r d d' s fuel p b rest hr hd hd' hs hfuel hb
  obtain ⟨fuel, rfl⟩ : ∃ n, fuel = n + 1 := ⟨fuel - 1, by simp at hfuel; omega⟩
  have hends : EndsNumber (l ++ ',' :: l' ++ (q ++ (c ++ ':' :: (c' ++ (t ++ u)))) ++ rest) := by
    rw [List.append_assoc, List.append_assoc]
    exact endsNumber_append hl (endsNumber_cons (.inl rfl) _)
  have hcomma : isBlank ',' = false := by decide
  have hmembers := hu q c c' t fuel
    ((p.advance (b ++ (r ++ (d ++ ':' :: (d' ++ s))))).advance (l ++ [','])) l' rest hq hc hc' ht
    (by simp at hfuel ⊢; omega) hl'
  rw [skipMembers_succ hr hd hd' hs hb (by simp at hfuel; omega) hends]
  simpa [skipMembersBehind, skipBlanks_append hl hcomma, next?, skip] using hmembers

/-! ### All of them -/

/-- What is left of an array is passed over, from its opening bracket or from behind an item on. -/
def PassesInArray : Bool → Text → Prop
  | true, u => Passes ('[' :: u)
  | false, u => EndsArray u

/-- What is left of an object is passed over, from its opening brace or from behind a member on. -/
def PassesInObject : Bool → Text → Prop
  | true, u => Passes (openBrace :: u)
  | false, u => EndsObject u

mutual

theorem passes_of_isValue {t : Text} : IsValue t → Passes t
  | .null => passes_null
  | .bool b => passes_bool b
  | .unsigned h => passes_unsigned h
  | .negative h => passes_negative h
  | .quotation h => passes_quotation h
  | .array h => passesInArray_of_areItems h
  | .object h => passesInObject_of_areMembers h

theorem passesInArray_of_areItems {first : Bool} {u : Text} :
    AreItems first u → PassesInArray first u
  | .close hb => by
    cases first with
    | true => exact passes_array_close hb
    | false => exact endsArray_close hb
  | .item hl ht h => by
    have ht := passes_of_isValue ht
    have h := passesInArray_of_areItems h
    cases hl with
    | first hl => exact passes_array_item hl ht h
    | later hl hl' => exact endsArray_item hl hl' ht h

theorem passesInObject_of_areMembers {first : Bool} {u : Text} :
    AreMembers first u → PassesInObject first u
  | .close hb => by
    cases first with
    | true => exact passes_object_close hb
    | false => exact endsObject_close hb
  | .member hl hq hc hc' ht h => by
    have ht := passes_of_isValue ht
    have h := passesInObject_of_areMembers h
    cases hl with
    | first hl => exact passes_object_member hl hq hc hc' ht h
    | later hl hl' => exact endsObject_member hl hl' hq hc hc' ht h

end

/-- Every value is passed over, and nothing but it. -/
theorem skips_of_isValue {t : Text} (h : IsValue t) : Skips t := by
  intro p b rest hb hrest
  have hfuel : t.length ≤ 2 * (b ++ (t ++ rest)).length + 2 := by
    simp only [List.length_append]
    omega
  exact (passes_of_isValue h).passes _ p b rest hfuel hb hrest

end Input

end ScriptStyle.Json
