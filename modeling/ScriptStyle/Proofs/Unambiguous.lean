import ScriptStyle.Proofs.ReadBack

/-!
# Texts stand for one value

Values may be written in many ways, but no text is a way to write two of them. From its beginning on
a text says at every place what comes next: the first character of a value tells its kind, a quote
or a bracket where it ends, and a number ends where its digits do. So a value is determined even if
more text follows (`decodes`), as long as a number does not go on there.
-/

namespace ScriptStyle.Json

open Input (isBlank EndsNumber takeWhile_append_stop)

/-! ## Where parts end -/

/-- Two beginnings with a property are the same if what follows begins without it. -/
theorem append_inj_of_stop {q : Char → Bool} {t t' rest rest' : Text}
    (ht : ∀ c ∈ t, q c = true) (ht' : ∀ c ∈ t', q c = true)
    (hrest : ∀ c ∈ rest.head?, q c = false) (hrest' : ∀ c ∈ rest'.head?, q c = false)
    (h : t ++ rest = t' ++ rest') : t = t' ∧ rest = rest' := by
  have htake := congrArg (List.takeWhile q) h
  rw [takeWhile_append_stop ht hrest, takeWhile_append_stop ht' hrest'] at htake
  subst htake
  exact ⟨rfl, List.append_cancel_left h⟩

/-- Behind blanks stands the same. -/
theorem cons_inj_of_blank {b b' cs cs' : Text} {c c' : Char} (hb : IsBlankText b)
    (hb' : IsBlankText b') (hc : isBlank c = false) (hc' : isBlank c' = false)
    (h : b ++ c :: cs = b' ++ c' :: cs') : c = c' ∧ cs = cs' := by
  have hstop : ∀ d ∈ (c :: cs).head?, isBlank d = false := by simpa using hc
  have hstop' : ∀ d ∈ (c' :: cs').head?, isBlank d = false := by simpa using hc'
  exact List.cons.inj (append_inj_of_stop hb hb' hstop hstop' h).2

theorem Quoted.append_inj {t t' q q' rest rest' : Text} (hq : Quoted t q) (hq' : Quoted t' q')
    (h : q ++ rest = q' ++ rest') : t = t' ∧ rest = rest' := by
  have hread := Input.text_quoted hq .origin rest
  rw [h, Input.text_quoted hq' .origin rest'] at hread
  injection hread with hread
  injection hread with htext hinput
  injection hinput with _ hrest
  exact ⟨htext.symm, hrest.symm⟩

theorem decimal_append_inj {n n' : Nat} {rest rest' : Text} (hrest : EndsNumber rest)
    (hrest' : EndsNumber rest') (h : decimal n ++ rest = decimal n' ++ rest') :
    n = n' ∧ rest = rest' := by
  obtain ⟨hsame, hrests⟩ := append_inj_of_stop
    (fun _ => Input.isDigit_of_mem_decimal) (fun _ => Input.isDigit_of_mem_decimal)
    (fun c hc => (hrest c hc).1) (fun c hc => (hrest' c hc).1) h
  exact ⟨by rw [← Input.ofDigitChars_decimal n, hsame, Input.ofDigitChars_decimal], hrests⟩

/-! ## The first character -/

/-- A kind of value. -/
inductive Kind where
  | null | bool | number | text | array | object
deriving DecidableEq

/-- The kind of a value. -/
def Value.kind : Value → Kind
  | null => .null
  | bool _ => .bool
  | number _ => .number
  | text _ => .text
  | array _ => .array
  | object _ => .object

/-- The kind of the values that begin with a character. -/
def Kind.ofHead (c : Char) : Kind :=
  if c = 'n' then .null
  else if c = 't' ∨ c = 'f' then .bool
  else if c = '"' then .text
  else if c = '[' then .array
  else if c = openBrace then .object
  else .number

/-- A value begins with the character, or a name does. -/
structure Opens (c : Char) : Prop where
  not_blank : isBlank c = false
  ne_comma : c ≠ ','
  ne_bracket : c ≠ ']'

/-- A value begins the text, or a name does. -/
def StartsOpen (t : Text) : Prop := ∃ c cs, t = c :: cs ∧ Opens c

theorem Quoted.startsOpen {t q : Text} (h : Quoted t q) : StartsOpen q := by
  obtain ⟨cs, rfl⟩ := h.starts
  exact ⟨'"', cs, rfl, ⟨rfl, by decide, by decide⟩⟩

theorem opens_digit {c : Char} (hc : c.isDigit = true) : Opens c ∧ Kind.ofHead c = .number := by
  have hne (d : Char) (hd : d.isDigit = false) : c ≠ d := Input.ne_of_isDigit hc hd
  refine ⟨⟨Input.isBlank_of_isDigit hc, hne ',' rfl, hne ']' rfl⟩, ?_⟩
  simp [Kind.ofHead, hne 'n' rfl, hne 't' rfl, hne 'f' rfl, hne '"' rfl, hne '[' rfl,
    hne openBrace rfl]

theorem Written.begins {v : Value} {t : Text} (h : Written v t) :
    ∃ c cs, t = c :: cs ∧ Opens c ∧ Kind.ofHead c = v.kind := by
  cases h with
  | null => exact ⟨'n', "ull".toList, rfl, ⟨rfl, by decide, by decide⟩, rfl⟩
  | bool b =>
    cases b with
    | false => exact ⟨'f', "alse".toList, rfl, ⟨rfl, by decide, by decide⟩, rfl⟩
    | true => exact ⟨'t', "rue".toList, rfl, ⟨rfl, by decide, by decide⟩, rfl⟩
  | number n =>
    obtain ⟨c, cs, hc, hdigit, -⟩ := Input.decimal_eq_cons n
    exact ⟨c, cs, hc, opens_digit hdigit⟩
  | text h =>
    obtain ⟨cs, rfl⟩ := h.starts
    exact ⟨'"', cs, rfl, ⟨rfl, by decide, by decide⟩, rfl⟩
  | array h => exact ⟨'[', _, rfl, ⟨rfl, by decide, by decide⟩, rfl⟩
  | object h => exact ⟨openBrace, _, rfl, ⟨rfl, by decide, by decide⟩, rfl⟩

/-! ## Items and members -/

section

variable {α : Type} {W : α → Text → Prop} {first : Bool} {l l' t t' rest rest' : Text}

/-- Behind what stands before an item there is the same. -/
theorem IsSeparator.append_inj (hl : IsSeparator first l) (hl' : IsSeparator first l')
    (ht : StartsOpen t) (ht' : StartsOpen t') (h : l ++ (t ++ rest) = l' ++ (t' ++ rest')) :
    t ++ rest = t' ++ rest' := by
  obtain ⟨c, cs, rfl, hc⟩ := ht
  obtain ⟨c', cs', rfl, hc'⟩ := ht'
  rw [List.cons_append, List.cons_append] at h ⊢
  cases hl with
  | first hb =>
    cases hl' with
    | first hb' =>
      obtain ⟨rfl, hrest⟩ := cons_inj_of_blank hb hb' hc.not_blank hc'.not_blank h
      rw [hrest]
  | later hb hd =>
    cases hl' with
    | later hb' hd' =>
      rw [List.append_assoc, List.append_assoc] at h
      obtain ⟨-, h⟩ := cons_inj_of_blank hb hb' (by decide) (by decide) h
      obtain ⟨rfl, hrest⟩ := cons_inj_of_blank hd hd' hc.not_blank hc'.not_blank h
      rw [hrest]

/-- Where an item begins, nothing is closed. -/
theorem IsSeparator.ne_close (hl : IsSeparator first l) (ht : StartsOpen t) {b : Text} {d : Char}
    (hb : IsBlankText b) (hd : isBlank d = false) (hcomma : ',' ≠ d) (hne : t.head? ≠ some d) :
    l ++ (t ++ rest) ≠ b ++ ([d] ++ rest') := by
  obtain ⟨c, cs, rfl, hc⟩ := ht
  rw [List.cons_append, List.singleton_append]
  intro h
  cases hl with
  | first hb' => exact hne (congrArg some (cons_inj_of_blank hb' hb hc.not_blank hd h).1)
  | later hb' =>
    rw [List.append_assoc] at h
    exact hcomma (cons_inj_of_blank hb' hb (by decide) hd h).1

theorem close_inj {b b' : Text} {d : Char} (hb : IsBlankText b) (hb' : IsBlankText b')
    (hd : isBlank d = false) (h : b ++ ([d] ++ rest) = b' ++ ([d] ++ rest')) : rest = rest' :=
  (cons_inj_of_blank hb hb' hd hd h).2

/-- No number goes on behind an item. -/
theorem endsNumber_items {as : List α} (h : WrittenItems W false as t) (rest : Text) :
    EndsNumber (t ++ rest) := by
  cases h with
  | close hb =>
    rw [List.append_assoc]
    exact Input.endsNumber_append hb (Input.endsNumber_cons (.inr (.inl rfl)) rest)
  | item hl =>
    cases hl with
    | later hb =>
      simp only [List.append_assoc, List.cons_append]
      exact Input.endsNumber_append hb (Input.endsNumber_cons (.inl rfl) _)

/-- From the beginning of a text it can be told that `a` is written there, and where it ends. -/
def Decodes (W : α → Text → Prop) (a : α) : Prop :=
  ∀ {t a' t' rest rest'}, W a t → W a' t' → EndsNumber rest → EndsNumber rest' →
    t ++ rest = t' ++ rest' → a = a' ∧ rest = rest'

variable (hW : ∀ {a t}, W a t → StartsOpen t)
include hW

theorem WrittenItems.append_inj {as as' : List α} (has : ∀ a ∈ as, Decodes W a)
    (h : WrittenItems W first as t) (h' : WrittenItems W first as' t')
    (heq : t ++ rest = t' ++ rest') : as = as' ∧ rest = rest' := by
  have hblank : isBlank ']' = false := by decide
  have hbracket {a : α} {t : Text} (ha : W a t) : t.head? ≠ some ']' := by
    obtain ⟨c, cs, rfl, hc⟩ := hW ha
    exact fun h => hc.ne_bracket (Option.some.inj h)
  induction h generalizing as' t' with
  | close hb =>
    cases h' with
    | close hb' =>
      simp only [List.append_assoc] at heq
      exact ⟨rfl, close_inj hb hb' hblank heq⟩
    | item hl ha =>
      simp only [List.append_assoc] at heq
      exact absurd heq.symm (hl.ne_close (hW ha) hb hblank (by decide) (hbracket ha))
  | item hl ha h ih =>
    obtain ⟨hhead, htail⟩ := List.forall_mem_cons.mp has
    cases h' with
    | close hb =>
      simp only [List.append_assoc] at heq
      exact absurd heq (hl.ne_close (hW ha) hb hblank (by decide) (hbracket ha))
    | item hl' ha' h' =>
      simp only [List.append_assoc] at heq
      have hitem := hl.append_inj hl' (hW ha) (hW ha') heq
      obtain ⟨rfl, hrest⟩ := hhead ha ha' (endsNumber_items h _) (endsNumber_items h' _) hitem
      obtain ⟨rfl, hrest⟩ := ih htail h' hrest
      exact ⟨rfl, hrest⟩

theorem WrittenMembers.append_inj {ms ms' : List (Text × α)} (hms : ∀ m ∈ ms, Decodes W m.2)
    (h : WrittenMembers W first ms t) (h' : WrittenMembers W first ms' t')
    (heq : t ++ rest = t' ++ rest') : ms = ms' ∧ rest = rest' := by
  have hblank : isBlank closeBrace = false := by decide
  have hbrace {k q : Text} (hq : Quoted k q) : q.head? ≠ some closeBrace := by
    obtain ⟨cs, rfl⟩ := hq.starts
    exact fun h => absurd (Option.some.inj h) (by decide)
  induction h generalizing ms' t' with
  | close hb =>
    cases h' with
    | close hb' =>
      simp only [List.append_assoc] at heq
      exact ⟨rfl, close_inj hb hb' hblank heq⟩
    | member hl hq =>
      simp only [List.append_assoc] at heq
      exact absurd heq.symm (hl.ne_close hq.startsOpen hb hblank (by decide) (hbrace hq))
  | member hl hq hb hd ha h ih =>
    obtain ⟨hhead, htail⟩ := List.forall_mem_cons.mp hms
    cases h' with
    | close hb' =>
      simp only [List.append_assoc] at heq
      exact absurd heq (hl.ne_close hq.startsOpen hb' hblank (by decide) (hbrace hq))
    | member hl' hq' hb' hd' ha' h' =>
      simp only [List.append_assoc, List.cons_append] at heq
      have hname := hl.append_inj hl' hq.startsOpen hq'.startsOpen heq
      obtain ⟨rfl, hcolon⟩ := hq.append_inj hq' hname
      obtain ⟨-, hbehind⟩ := cons_inj_of_blank hb hb' (by decide) (by decide) hcolon
      have hvalue := (IsSeparator.first hd).append_inj (.first hd') (hW ha) (hW ha') hbehind
      obtain ⟨rfl, hrest⟩ := hhead ha ha' (Input.endsNumber_members h _)
        (Input.endsNumber_members h' _) hvalue
      obtain ⟨rfl, hrest⟩ := ih htail h' hrest
      exact ⟨rfl, hrest⟩

end

/-! ## Values -/

theorem Written.startsOpen {v : Value} {t : Text} (h : Written v t) : StartsOpen t := by
  obtain ⟨c, cs, rfl, hc, -⟩ := h.begins
  exact ⟨c, cs, rfl, hc⟩

/-- What follows does not change the kind of a value. -/
theorem Written.kind_eq {v v' : Value} {t t' rest rest' : Text} (h : Written v t)
    (h' : Written v' t') (heq : t ++ rest = t' ++ rest') : v.kind = v'.kind := by
  obtain ⟨c, cs, rfl, -, hc⟩ := h.begins
  obtain ⟨c', cs', rfl, -, hc'⟩ := h'.begins
  obtain ⟨rfl, -⟩ := List.cons.inj heq
  exact hc.symm.trans hc'

theorem boolWord_append_inj {b b' : Bool} {rest rest' : Text}
    (h : boolWord b ++ rest = boolWord b' ++ rest') : b = b' ∧ rest = rest' := by
  cases b <;> cases b'
  case false.false => exact ⟨rfl, List.append_cancel_left h⟩
  case true.true => exact ⟨rfl, List.append_cancel_left h⟩
  all_goals exact absurd (List.cons.inj h).1 (by decide)

-- The recursion is on the value: what is written is nested in the relations of items and members,
-- which the lemmas above treat for values that are already told apart.
mutual

/-- Whatever a value is written in and whatever follows, it can be told from there. -/
theorem decodes : (v : Value) → Decodes Written v
  | .null => by
    intro h h' hrest hrest' heq
    have hkind := h.kind_eq h' heq
    cases h
    cases h' with
    | null => exact ⟨rfl, List.append_cancel_left heq⟩
    | _ => cases hkind
  | .bool b => by
    intro h h' hrest hrest' heq
    have hkind := h.kind_eq h' heq
    cases h
    cases h' with
    | bool b' =>
      obtain ⟨rfl, hrest⟩ := boolWord_append_inj heq
      exact ⟨rfl, hrest⟩
    | _ => cases hkind
  | .number n => by
    intro h h' hrest hrest' heq
    have hkind := h.kind_eq h' heq
    cases h
    cases h' with
    | number n' =>
      obtain ⟨rfl, hrest⟩ := decimal_append_inj hrest hrest' heq
      exact ⟨rfl, hrest⟩
    | _ => cases hkind
  | .text s => by
    intro h h' hrest hrest' heq
    have hkind := h.kind_eq h' heq
    cases h with
    | text hq =>
      cases h' with
      | text hq' =>
        obtain ⟨rfl, hrest⟩ := hq.append_inj hq' heq
        exact ⟨rfl, hrest⟩
      | _ => cases hkind
  | .array vs => by
    intro h h' hrest hrest' heq
    have hkind := h.kind_eq h' heq
    cases h with
    | array h =>
      cases h' with
      | array h' =>
        obtain ⟨-, heq⟩ := List.cons.inj heq
        obtain ⟨rfl, hrest⟩ := h.append_inj Written.startsOpen (decodesItems vs) h' heq
        exact ⟨rfl, hrest⟩
      | _ => cases hkind
  | .object ms => by
    intro h h' hrest hrest' heq
    have hkind := h.kind_eq h' heq
    cases h with
    | object h =>
      cases h' with
      | object h' =>
        obtain ⟨-, heq⟩ := List.cons.inj heq
        obtain ⟨rfl, hrest⟩ := h.append_inj Written.startsOpen (decodesMembers ms) h' heq
        exact ⟨rfl, hrest⟩
      | _ => cases hkind

theorem decodesItems : (vs : List Value) → ∀ v ∈ vs, Decodes Written v
  | [] => nofun
  | v :: vs => List.forall_mem_cons.mpr ⟨decodes v, decodesItems vs⟩

theorem decodesMembers : (ms : List (Text × Value)) → ∀ m ∈ ms, Decodes Written m.2
  | [] => nofun
  | (_, v) :: ms => List.forall_mem_cons.mpr ⟨decodes v, decodesMembers ms⟩

end

/-- A text is a way to write one value at most. -/
theorem Written.unique {v v' : Value} {t : Text} (h : Written v t) (h' : Written v' t) :
    v = v' := by
  have hends : EndsNumber [] := by simp [EndsNumber]
  exact (decodes v h h' hends hends rfl).1

end ScriptStyle.Json
