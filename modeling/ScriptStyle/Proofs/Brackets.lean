import ScriptStyle.Proofs.Parts

/-!
# Reading sets in brackets

A bracket is read in steps. A step reads a nested bracket or a class, closes the innermost bracket,
or reads an operator or an item; what is open after it decides how the rest is read. Each kind of
step is a reader, and from that it follows by induction on the number of steps that the whole
bracket is one.

A step can stall at the end of the text and before a hyphen with nothing behind it that counts. A
bracket never does, because it ends with a sign of its own.
-/

namespace ScriptStyle.Pattern

/-! ## The beginning of a bracket -/

/-- Nothing is left. -/
def AtEnd {α : Type} (_ : α) (r : Text) : Prop := r = []

theorem isReader_unlessEmpty (a : α) : IsReader AtEnd fun t => match t with
    | [] => none
    | r => some (a, r) where
  suffix := by
    intro t b r h
    cases t with
    | nil => cases h
    | cons c cs =>
      cases h
      exact List.suffix_refl _
  continues t := by
    cases t with
    | nil =>
      refine .none fun {b r more} h => ?_
      obtain ⟨-, hr⟩ := Prod.mk.inj (Option.some.inj h)
      have hnil : [] ++ ')' :: more = r ++ ')' :: more := hr
      exact (List.append_cancel_right hnil).symm
    | cons c cs => exact (IsReader.pure a).continues (c :: cs)

namespace Bracket

/-- The result of `hyphens` with the text behind it set apart. -/
def leading (m : Mode) (b : Bracket) (t : Text) : Option ((Bracket × Bool) × Text) :=
  (hyphens m b t).map fun x => ((x.1, x.2.1), x.2.2)

theorem leading_nil (m : Mode) (b : Bracket) : leading m b [] = none := by
  rw [leading, hyphens]
  rfl

theorem leading_cons (m : Mode) (b : Bracket) (c : Char) (cs : Text) : leading m b (c :: cs) =
    if c = '-' then
      (leading m (b.add (.singleton '-')) (m.skip cs)).map fun x => ((x.1.1, true), x.2)
    else some ((b, false), c :: cs) := by
  rw [leading, hyphens]
  split
  · rw [leading, Option.map_map, Option.map_map]
    rfl
  · rfl

theorem leading_suffix {m : Mode} {b : Bracket} {t r : Text} {x : Bracket × Bool}
    (h : leading m b t = some (x, r)) : r <:+ t := by
  match t with
  | [] =>
    rw [leading_nil] at h
    cases h
  | c :: cs =>
    rw [leading_cons] at h
    split at h
    · obtain ⟨⟨y, r'⟩, hy, hx⟩ := Option.map_eq_some_iff.1 h
      cases hx
      exact ((leading_suffix hy).trans (skip_suffix m cs)).trans (List.suffix_cons c cs)
    · cases h
      exact List.suffix_refl _
termination_by t.length
decreasing_by exact length_skip_lt m c cs

theorem leading_continues (m : Mode) (b : Bracket) (t : Text) :
    Continues AtEnd (leading m b t) fun more => leading m b (t ++ ')' :: more) := by
  match t with
  | [] =>
    have hlonger (more : Text) : leading m b (')' :: more) = some ((b, false), ')' :: more) := by
      rw [leading_cons]
      rfl
    simp only [leading_nil, List.nil_append, hlonger]
    exact (isReader_unlessEmpty (b, false)).continues []
  | c :: cs =>
    simp only [List.cons_append, leading_cons]
    split
    · let any (t : Text) : Option ((Bracket × Bool) × Text) :=
        (leading m (b.add (.singleton '-')) t).map fun x => ((x.1.1, true), x.2)
      have hany : Continues AtEnd (any (m.skip cs)) fun more => any (m.skip cs ++ ')' :: more) :=
        (leading_continues m _ (m.skip cs)).map (fun x => (x.1, true)) id
      refine continues_skip m (k := any) ?_ cs hany
      intro t x r h
      obtain ⟨⟨y, r'⟩, hy, hx⟩ := Option.map_eq_some_iff.1 h
      cases hx
      exact leading_suffix hy
    · exact (IsReader.pure (b, false)).continues (c :: cs)
termination_by t.length
decreasing_by exact length_skip_lt m c cs

theorem isReader_leading (m : Mode) (b : Bracket) : IsReader AtEnd (leading m b) :=
  ⟨leading_suffix, leading_continues m b⟩

/-- A closing sign that stands for itself because nothing but an opening sign comes before it. -/
def closing (m : Mode) (b : Bracket) (any : Bool) (t : Text) : Option (Bracket × Text) :=
  match t with
  | ']' :: _ => if any then some (b, t) else (m.next? t).map (b.add (.singleton ']'), ·)
  | _ => some (b, t)

theorem isReader_closing (m : Mode) (b : Bracket) (any : Bool) :
    IsReader AtEnd (closing m b any) := by
  cases any with
  | true =>
    have heq : closing m b true = fun t => some (b, t) := by
      funext t
      unfold closing
      split <;> rfl
    rw [heq]
    exact .pure b
  | false =>
    refine .ifHead (· = ']') (by decide) ?_ (.pure b) rfl ?_
    · rintro _ rfl
      have heq (cs : Text) : closing m b false (']' :: cs) = match m.skip cs with
          | [] => none
          | r => some (b.add (.singleton ']'), r) := by
        rw [closing]
        simp only [Mode.next?]
        cases m.skip cs <;> rfl
      simp only [heq]
      exact (isReader_unlessEmpty _).afterSkip m
    · intro c cs hc
      simp [closing, hc]

/-- The beginning of a bracket behind a sign that negates it. -/
def opening (m : Mode) (negated : Bool) (t : Text) : Option (Bracket × Text) :=
  leading m ⟨negated, none, .empty⟩ t >>= fun x => closing m x.1.1 x.1.2 x.2

theorem isReader_opening (m : Mode) (negated : Bool) : IsReader AtEnd (opening m negated) := by
  refine (isReader_leading m _).bind (fun x => isReader_closing m x.1 x.2) ?_
  rintro x _ b r rfl h
  cases h
  rfl

theorem start_eq (m : Mode) (t : Text) : start m t = match m.skip t with
    | '^' :: cs => opening m true (m.skip cs)
    | r => opening m false r := by
  have hopening (negated : Bool) (r : Text) : opening m negated r =
      (hyphens m ⟨negated, none, .empty⟩ r).bind fun x => closing m x.1 x.2.1 x.2.2 := by
    rw [opening, leading, Option.bind_eq_bind, Option.bind_map]
    rfl
  have hnil (negated : Bool) : opening m negated [] = none := by
    rw [opening, leading_nil]
    rfl
  unfold start
  dsimp only
  generalize m.skip t = r
  split
  · next cs =>
    change _ = opening m true (m.skip cs)
    cases hskip : m.skip cs with
    | nil =>
      have hnext : m.next? ('^' :: cs) = none := by simp only [Mode.next?, hskip]
      rw [hnext, hnil]
      rfl
    | cons d ds =>
      have hnext : m.next? ('^' :: cs) = some (d :: ds) := by simp only [Mode.next?, hskip]
      rw [hnext]
      exact (hopening true (d :: ds)).symm
  · exact (hnil false).symm
  · next hcaret _ =>
    split
    · exact absurd rfl (hcaret _)
    · exact (hopening false r).symm

theorem isReader_start (m : Mode) : IsReader AtEnd (start m) := by
  rw [funext (start_eq m)]
  refine IsReader.afterSkip m (k := fun r => match r with
    | '^' :: cs => opening m true (m.skip cs)
    | r => opening m false r) ?_
  refine .ifHead (· = '^') (by decide) ?_ (isReader_opening m false) rfl ?_
  · rintro _ rfl
    exact (isReader_opening m true).afterSkip m
  · intro c cs hc
    simp [hc]

end Bracket

/-! ## Classes with a name -/

/-- The name of an ASCII class and the signs behind it. -/
def className (negated : Bool) (t : Text) : Option (Bool × CharacterSet × Text) :=
  match t.dropWhile (· != ':') with
  | ':' :: ']' :: rest =>
    (asciiClasses.find? (·.1.toList = t.takeWhile (· != ':'))).map fun e =>
      (negated, .ofRanges e.2, rest)
  | _ => none

/-- A leading sign that negates a class, and the text behind it. -/
def caret : Text → Bool × Text
  | '^' :: r => (true, r)
  | r => (false, r)

theorem caret_append (t more : Text) :
    caret (t ++ ')' :: more) = ((caret t).1, (caret t).2 ++ ')' :: more) := by
  unfold caret
  split
  · next h =>
    rcases t with _ | ⟨c, cs⟩
    · cases h
    · cases h
      rfl
  · next h =>
    split
    · exact absurd rfl (h _)
    · rfl

theorem caret_suffix (t : Text) : (caret t).2 <:+ t := by
  unfold caret
  split
  · exact List.suffix_cons _ _
  · exact List.suffix_refl _

theorem asciiClass?_colon (t : Text) :
    asciiClass? (':' :: t) = className (caret t).1 (caret t).2 := rfl

theorem not_mem_of_find? {name : Text} {e : String × List (Char × Char)}
    (h : asciiClasses.find? (·.1.toList = name) = some e) : ')' ∉ name := by
  have hnames : ∀ e ∈ asciiClasses, ')' ∉ e.1.toList := by decide
  have hname : e.1.toList = name := by simpa using List.find?_some h
  rw [← hname]
  exact hnames e (List.mem_of_find?_eq_some h)

theorem className_append (negated : Bool) (t more : Text) :
    className negated (t ++ ')' :: more) =
      (className negated t).map fun x => (x.1, x.2.1, x.2.2 ++ ')' :: more) := by
  have hsplit := List.takeWhile_append_dropWhile (p := (· != ':')) (l := t)
  unfold className
  rcases hdrop : t.dropWhile (· != ':') with _ | ⟨c, cs⟩
  · -- No class has a name with a closing parenthesis in it.
    rw [hdrop, List.append_nil] at hsplit
    have hcolon : ∀ c ∈ t, (c != ':') = true := by
      rw [← hsplit]
      exact fun c => List.all_eq_true.1 List.all_takeWhile c
    have hfind : asciiClasses.find?
        (·.1.toList = (t ++ ')' :: more).takeWhile (· != ':')) = none := by
      cases hfind : asciiClasses.find? _ with
      | none => rfl
      | some e =>
        refine absurd ?_ (not_mem_of_find? hfind)
        rw [List.takeWhile_append_of_pos hcolon]
        exact List.mem_append_right t List.mem_cons_self
    rw [hfind]
    dsimp only
    split <;> rfl
  · have hlength : (t.takeWhile (· != ':')).length ≠ t.length := by
      have := congrArg List.length hsplit
      rw [hdrop, List.length_append, List.length_cons] at this
      omega
    have hdrop' : (t ++ ')' :: more).dropWhile (· != ':') = c :: (cs ++ ')' :: more) := by
      rw [List.dropWhile_append, hdrop]
      rfl
    rw [hdrop', List.takeWhile_append, if_neg hlength]
    by_cases hc : c = ':'
    · subst hc
      rcases cs with _ | ⟨d, ds⟩
      · rfl
      · by_cases hd : d = ']'
        · subst hd
          change Option.map _ _ = Option.map _ (Option.map _ _)
          rw [Option.map_map]
          rfl
        · simp [hd]
    · simp [hc]

theorem className_suffix {negated negated' : Bool} {t r : Text} {s : CharacterSet}
    (h : className negated t = some (negated', s, r)) : r <:+ t := by
  unfold className at h
  split at h
  · next rest hrest =>
    obtain ⟨e, -, he⟩ := Option.map_eq_some_iff.1 h
    cases he
    have hdrop := List.dropWhile_suffix (l := t) (· != ':')
    rw [hrest] at hdrop
    exact ((List.suffix_cons ']' r).trans (List.suffix_cons ':' _)).trans hdrop
  · cases h

theorem asciiClass?_append (t more : Text) :
    asciiClass? (t ++ ')' :: more) =
      (asciiClass? t).map fun x => (x.1, x.2.1, x.2.2 ++ ')' :: more) := by
  rcases t with _ | ⟨c, cs⟩
  · rfl
  by_cases hc : c = ':'
  · subst hc
    rw [List.cons_append, asciiClass?_colon, asciiClass?_colon, caret_append, className_append]
  · simp [asciiClass?, hc]

theorem asciiClass?_suffix {t r : Text} {negated : Bool} {s : CharacterSet}
    (h : asciiClass? t = some (negated, s, r)) : r <:+ t := by
  rcases t with _ | ⟨c, cs⟩
  · cases h
  by_cases hc : c = ':'
  · subst hc
    rw [asciiClass?_colon] at h
    exact ((className_suffix h).trans (caret_suffix cs)).trans (List.suffix_cons _ _)
  · simp [asciiClass?, hc] at h

/-! ## Items and ranges -/

theorem isReader_setItem_cons (m : Mode) (c : Char) :
    IsReader (AtBrace m) fun cs => setItem m (c :: cs) := by
  by_cases hc : c = '\\'
  · subst hc
    exact isReader_escape m
  · have heq (cs : Text) : setItem m (c :: cs) = some (.char c false, cs) := by
      simp [setItem]
    simp only [heq]
    exact .pure _

theorem isReader_setItem (m : Mode) : IsReader (AtBrace m) (setItem m) :=
  .uncons rfl (isReader_setItem_cons m)

/-- The item that a range would begin with. -/
def single (m : Mode) (first : Element) (t : Text) : Option (CharacterSet × Text) :=
  match first with
  | .set s => some (s, t)
  | e => (e.char? m).map (.singleton ·, t)

/-- A range from its second end on. -/
def rangeEnd (m : Mode) (first : Element) (t : Text) : Option (CharacterSet × Text) := do
  let (last, r) ← setItem m t
  let a ← first.char? m
  let b ← last.char? m
  guard (a ≤ b)
  some (.range a b, r)

/-- What stands behind the first item of what may be a range. -/
def setRangeTail (m : Mode) (first : Element) (t : Text) : Option (CharacterSet × Text) :=
  match t with
  | [] => none
  | c :: cs =>
    if c != '-' then single m first (c :: cs)
    else match (m.skip cs).head? with
      | some ']' | some '-' => single m first (c :: cs)
      | _ => rangeEnd m first (m.skip cs)

theorem setRange_eq (m : Mode) (t : Text) :
    setRange m t = setItem m t >>= fun x => setRangeTail m x.1 (m.skip x.2) := by
  refine Option.bind_congr fun ⟨first, r⟩ _ => ?_
  dsimp only
  unfold setRangeTail
  generalize m.skip r = r
  rcases r with _ | ⟨c, cs⟩
  · rfl
  dsimp only
  generalize (m.skip cs).head? = next
  by_cases hc : (c != '-') = true
  · rw [if_pos hc, if_pos hc]
    rfl
  · rw [if_neg hc, if_neg hc]
    cases next <;> rfl

/-- A hyphen leads to the second end of a range unless the bracket ends behind it or another hyphen
follows. -/
def LeadsOn (m : Mode) (c : Char) (cs : Text) : Prop :=
  c = '-' ∧ (m.skip cs).head? ≠ some ']' ∧ (m.skip cs).head? ≠ some '-'

instance (m : Mode) (c : Char) (cs : Text) : Decidable (LeadsOn m c cs) :=
  inferInstanceAs (Decidable (_ ∧ _ ∧ _))

theorem setRangeTail_cons (m : Mode) (first : Element) (c : Char) (cs : Text) :
    setRangeTail m first (c :: cs) =
      if LeadsOn m c cs then rangeEnd m first (m.skip cs) else single m first (c :: cs) := by
  unfold setRangeTail
  dsimp only
  by_cases hc : c = '-'
  · subst hc
    rw [if_neg (by simp)]
    split
    · next h => exact (if_neg fun hleads => hleads.2.1 h).symm
    · next h => exact (if_neg fun hleads => hleads.2.2 h).symm
    · next h h' => exact (if_pos ⟨rfl, h, h'⟩).symm
  · rw [if_pos (bne_iff_ne.2 hc), if_neg fun hleads => hc hleads.1]

/-- What follows a hyphen decides, and a parenthesis far behind it does not. -/
theorem leadsOn_append {m : Mode} {cs : Text} (hskip : m.skip cs ≠ []) (c : Char) (more : Text) :
    LeadsOn m c (cs ++ ')' :: more) ↔ LeadsOn m c cs := by
  have hhead : (m.skip (cs ++ ')' :: more)).head? = (m.skip cs).head? := by
    rw [skip_append hskip, List.head?_append, Option.or_of_isSome (List.isSome_head?.2 hskip)]
  rw [LeadsOn, LeadsOn, hhead]

theorem isReader_single (m : Mode) (first : Element) {s : CharacterSet → Text → Prop} :
    IsReader s (single m first) := by
  cases first with
  | set x => exact .pure x
  | char c byte => exact .mapOption _ _
  | assertion a => exact .mapOption (Element.char? m (.assertion a)) CharacterSet.singleton

theorem single_rest {m : Mode} {first : Element} {t r : Text} {s : CharacterSet}
    (h : single m first t = some (s, r)) : r = t := by
  cases first with
  | set x =>
    cases h
    rfl
  | char c byte =>
    obtain ⟨d, -, hd⟩ := Option.map_eq_some_iff.1 h
    cases hd
    rfl
  | assertion a => cases h

theorem isReader_rangeEnd (m : Mode) (first : Element) : IsReader never (rangeEnd m first) := by
  refine (isReader_setItem m).bind (fun last => ?_) ?_
  · exact .bindOption (first.char? m) fun a => .bindOption (last.char? m) fun b =>
      .bindOption (guard (a ≤ b)) fun _ => .pure (CharacterSet.range a b)
  · rintro _ r b r' ⟨⟨a, rfl⟩, -⟩ h
    obtain ⟨_, -, h⟩ := Option.bind_eq_some_iff.1 h
    cases h

/-- Nothing is left, or nothing that counts stands behind a hyphen. -/
def AtHyphen (m : Mode) (_ : CharacterSet) (r : Text) : Prop :=
  r = [] ∨ ∃ cs, r = '-' :: cs ∧ m.skip cs = []

/-- A hyphen with nothing behind it that counts neither ends an item nor begins a range. -/
theorem continues_atHyphen {m : Mode} {cs : Text} (hskip : m.skip cs = []) (first : Element) :
    Continues (AtHyphen m) (setRangeTail m first ('-' :: cs)) fun more =>
      setRangeTail m first ('-' :: (cs ++ ')' :: more)) := by
  have hleads : LeadsOn m '-' cs := by
    rw [LeadsOn, hskip]
    exact ⟨rfl, by simp, by simp⟩
  have hplain : setRangeTail m first ('-' :: cs) = none := by
    rw [setRangeTail_cons, if_pos hleads, hskip]
    rfl
  rw [hplain]
  refine .none fun {s r more} h => ?_
  rw [setRangeTail_cons] at h
  split at h
  · have hend := (((isReader_rangeEnd m first).afterSkip m).continues cs).drop h id
    rw [hskip] at hend
    cases hend
  · have hsingle := ((isReader_single m first (s := never)).continues ('-' :: cs)).drop h id
    exact .inr ⟨cs, single_rest hsingle, hskip⟩

theorem isReader_setRangeTail (m : Mode) (first : Element) :
    IsReader (AtHyphen m) (setRangeTail m first) where
  suffix := by
    intro t s r h
    rcases t with _ | ⟨c, cs⟩
    · cases h
    · rw [setRangeTail_cons] at h
      split at h
      · exact (((isReader_rangeEnd m first).suffix h).trans (skip_suffix m cs)).trans
          (List.suffix_cons c cs)
      · exact (isReader_single m first (s := never)).suffix h
  continues t := by
    rcases t with _ | ⟨c, cs⟩
    · refine .none fun {s r more} h => .inl ?_
      exact single_rest (((isReader_single m first (s := never)).continues []).drop h id)
    by_cases hstall : c = '-' ∧ m.skip cs = []
    · obtain ⟨rfl, hskip⟩ := hstall
      exact continues_atHyphen hskip first
    · by_cases hc : c = '-'
      · have hskip : m.skip cs ≠ [] := fun hskip => hstall ⟨hc, hskip⟩
        simp only [List.cons_append, setRangeTail_cons, leadsOn_append hskip, skip_append hskip]
        split
        · exact (isReader_rangeEnd m first).of_never.continues (m.skip cs)
        · exact (isReader_single m first).continues (c :: cs)
      · have hleads (t : Text) : ¬LeadsOn m c t := fun h => hc h.1
        simp only [List.cons_append, setRangeTail_cons, if_neg (hleads _)]
        exact (isReader_single m first).continues (c :: cs)

theorem isReader_setRange_cons (m : Mode) (c : Char) :
    IsReader (AtHyphen m) fun cs => setRange m (c :: cs) := by
  simp only [setRange_eq]
  refine (isReader_setItem_cons m c).bind
    (fun first => (isReader_setRangeTail m first).afterSkip m) ?_
  rintro _ r s r' ⟨⟨a, rfl⟩, -⟩ h
  cases hskip : m.skip r with
  | nil =>
    rw [hskip] at h
    cases h
  | cons c cs =>
    rw [hskip, setRangeTail_cons] at h
    split at h
    · obtain ⟨⟨last, r⟩, -, h⟩ := Option.bind_eq_some_iff.1 h
      cases h
    · cases h

/-! ## The steps of a bracket -/

/-- What is open after a part of a bracket, the innermost bracket first, or the set that has been
read. -/
abbrev Brackets := (Bracket × List Bracket) ⊕ CharacterSet

/-- What an opening bracket inside a bracket begins. -/
def nestedStep (m : Mode) (b : Bracket) (outer : List Bracket) (t : Text) :
    Option (Brackets × Text) :=
  match asciiClass? t with
  | some (negated, s, rest) =>
    (m.negate negated (m.fold s)).map fun s => (.inl (b.add s, outer), rest)
  | none => (Bracket.start m t).map fun x => (.inl (x.1, b :: outer), x.2)

/-- What a closing bracket ends. -/
def closingStep (m : Mode) (b : Bracket) (outer : List Bracket) (t : Text) :
    Option (Brackets × Text) :=
  (b.close m).map fun s => match outer with
    | [] => (.inr s, t)
    | o :: os => (.inl (o.add s, os), t)

/-- An operator, or an item or a range. -/
def itemStep (m : Mode) (b : Bracket) (outer : List Bracket) (c : Char) (t : Text) :
    Option (Brackets × Text) :=
  match SetOperator.ofSign? c, decide (t.head? = some c) with
  | some o, true => some (.inl (b.operate m o, outer), t.drop 1)
  | _, _ => (setRange m (c :: t)).map fun x => (.inl (b.add x.1, outer), x.2)

/-- The part of a bracket that begins with the character `c`. -/
def setStep (m : Mode) (b : Bracket) (outer : List Bracket) (c : Char) (t : Text) :
    Option (Brackets × Text) :=
  if c = '[' then nestedStep m b outer t
  else if c = ']' then closingStep m b outer t
  else itemStep m b outer c t

/-- The rest of a bracket, read with the text behind some part of it. -/
def setRest (m : Mode) (fuel : Nat) : Brackets × Text → Option (CharacterSet × Text)
  | (.inl (b, outer), r) => readSet m fuel b outer r
  | (.inr s, r) => some (s, r)

/-- A bracket read from where the mode ignores nothing more. -/
def setFrom (m : Mode) (fuel : Nat) (b : Bracket) (outer : List Bracket) :
    Text → Option (CharacterSet × Text)
  | [] => none
  | c :: cs => setStep m b outer c cs >>= setRest m fuel

theorem readSet_succ (m : Mode) (fuel : Nat) (b : Bracket) (outer : List Bracket) (t : Text) :
    readSet m (fuel + 1) b outer t = setFrom m fuel b outer (m.skip t) := by
  rw [readSet]
  generalize m.skip t = r
  split
  · rfl
  · next r =>
    change _ = nestedStep m b outer r >>= setRest m fuel
    unfold nestedStep
    rcases asciiClass? r with _ | ⟨negated, s, rest⟩
    · change _ = (Bracket.start m r).map _ >>= _
      cases Bracket.start m r <;> rfl
    · dsimp only
      cases m.negate negated (m.fold s) <;> rfl
  · next r =>
    change _ = closingStep m b outer r >>= setRest m fuel
    rw [closingStep]
    cases b.close m <;> cases outer <;> rfl
  · next c cs hopen hclose =>
    have hstep : setStep m b outer c cs = itemStep m b outer c cs := by
      rw [setStep, if_neg hopen, if_neg hclose]
    change _ = setStep m b outer c cs >>= setRest m fuel
    rw [hstep, itemStep]
    rcases SetOperator.ofSign? c with _ | o <;> rcases decide (cs.head? = some c) with _ | _ <;>
      cases setRange m (c :: cs) <;> rfl

/-- Brackets are open, and what is left is nothing or a hyphen that ends nothing. -/
def InBracket (m : Mode) (x : Brackets) (r : Text) : Prop :=
  (∃ y, x = .inl y) ∧ (r = [] ∨ ∃ cs, r = '-' :: cs ∧ m.skip cs = [])

theorem isReader_nestedStep (m : Mode) (b : Bracket) (outer : List Bracket) :
    IsReader (InBracket m) (nestedStep m b outer) := by
  have hstart : IsReader (InBracket m) fun t =>
      (Bracket.start m t).map fun x => (Sum.inl (x.1, b :: outer), x.2) :=
    (Bracket.isReader_start m).map (fun inner => Sum.inl (inner, b :: outer))
      fun h => ⟨⟨_, rfl⟩, .inl h⟩
  refine ⟨?_, fun t => ?_⟩
  · intro t x r h
    unfold nestedStep at h
    split at h
    · next negated s rest hclass =>
      obtain ⟨s', -, hs⟩ := Option.map_eq_some_iff.1 h
      cases hs
      exact asciiClass?_suffix hclass
    · exact hstart.suffix h
  · simp only [nestedStep, asciiClass?_append]
    rcases hclass : asciiClass? t with _ | ⟨negated, s, rest⟩
    · exact hstart.continues t
    · exact (IsReader.mapOption (m.negate negated (m.fold s)) fun s =>
        Sum.inl (b.add s, outer)).continues rest

theorem isReader_closingStep (m : Mode) (b : Bracket) (outer : List Bracket) :
    IsReader (InBracket m) (closingStep m b outer) := by
  cases outer with
  | nil => exact .mapOption (b.close m) Sum.inr
  | cons o os => exact .mapOption (b.close m) fun s => Sum.inl (o.add s, os)

theorem isReader_itemStep (m : Mode) (b : Bracket) (outer : List Bracket) (c : Char) :
    IsReader (InBracket m) (itemStep m b outer c) := by
  have hrange : IsReader (InBracket m) fun t =>
      (setRange m (c :: t)).map fun x => (Sum.inl (b.add x.1, outer), x.2) :=
    (isReader_setRange_cons m c).map (fun s => Sum.inl (b.add s, outer)) fun h => ⟨⟨_, rfl⟩, h⟩
  unfold itemStep
  cases hsign : SetOperator.ofSign? c with
  | none => exact hrange
  | some o =>
    have hc : ')' ≠ c := by
      rintro rfl
      cases hsign
    refine .ifHead (· = c) hc ?_ hrange rfl ?_
    · rintro _ rfl
      simp only [List.head?_cons, decide_true, List.drop_one, List.tail_cons]
      exact .pure _
    · intro d ds hd
      simp [hd]

theorem isReader_setStep (m : Mode) (b : Bracket) (outer : List Bracket) (c : Char) :
    IsReader (InBracket m) (setStep m b outer c) :=
  .ite (isReader_nestedStep m b outer)
    (.ite (isReader_closingStep m b outer) (isReader_itemStep m b outer c))

theorem setFrom_suffix {m : Mode} {fuel : Nat} {b : Bracket} {outer : List Bracket}
    (hread : ∀ {b outer t r s}, readSet m fuel b outer t = some (s, r) → r <:+ t) {t r : Text}
    {s : CharacterSet} (h : setFrom m fuel b outer t = some (s, r)) : r <:+ t.tail := by
  rcases t with _ | ⟨c, cs⟩
  · cases h
  · obtain ⟨⟨b' | s', r'⟩, hstep, hrest⟩ := Option.bind_eq_some_iff.1 h
    · exact (hread hrest).trans ((isReader_setStep m b outer c).suffix hstep)
    · cases hrest
      exact (isReader_setStep m b outer c).suffix hstep

theorem readSet_suffix {m : Mode} {fuel : Nat} {b : Bracket} {outer : List Bracket} {t r : Text}
    {s : CharacterSet} (h : readSet m fuel b outer t = some (s, r)) : r <:+ t := by
  induction fuel generalizing b outer t r s with
  | zero => cases h
  | succ fuel ih =>
    rw [readSet_succ] at h
    exact ((setFrom_suffix ih h).trans (List.tail_suffix _)).trans (skip_suffix m t)

theorem readSet_nil (m : Mode) (fuel : Nat) (b : Bracket) (outer : List Bracket) :
    readSet m fuel b outer [] = none := by
  cases fuel with
  | zero => rfl
  | succ fuel =>
    rw [readSet_succ, skip_nil]
    rfl

theorem readSet_hyphen {m : Mode} {cs : Text} (hcs : m.skip cs = []) (fuel : Nat) (b : Bracket)
    (outer : List Bracket) : readSet m fuel b outer ('-' :: cs) = none := by
  cases fuel with
  | zero => rfl
  | succ fuel =>
    have hhead : decide (cs.head? = some '-') = false := by
      cases cs with
      | nil => rfl
      | cons c cs =>
        refine decide_eq_false fun hc => ?_
        obtain rfl := Option.some.inj hc
        rw [skip_cons (by decide) (by decide)] at hcs
        cases hcs
    have hrange : setRange m ('-' :: cs) = none := by
      rw [setRange_eq]
      change setRangeTail m _ (m.skip cs) = none
      rw [hcs]
      rfl
    have hstep : setStep m b outer '-' cs = none := by
      change itemStep m b outer '-' cs = none
      rw [itemStep, hhead, hrange]
      rfl
    rw [readSet_succ, skip_cons (by decide) (by decide), setFrom, hstep]
    rfl

theorem readSet_continues (m : Mode) {fuel : Nat} (b : Bracket) (outer : List Bracket) {t : Text}
    (hfuel : t.length < fuel) : Continues never (readSet m fuel b outer t) fun more =>
      readSet m (fuel + (more.length + 1)) b outer (t ++ ')' :: more) := by
  induction fuel generalizing b outer t with
  | zero => exact absurd hfuel (Nat.not_lt_zero _)
  | succ fuel ih =>
    have hadd (more : Text) : fuel + 1 + (more.length + 1) = fuel + (more.length + 1) + 1 :=
      Nat.succ_add fuel _
    simp only [hadd, readSet_succ]
    refine (isReader_skip m).continues_bind t (g := fun x => setFrom m fuel b outer x.2)
      (l := fun more x => setFrom m (fuel + (more.length + 1)) b outer x.2) ?_
      (fun h => (setFrom_suffix readSet_suffix h).trans (List.tail_suffix _))
      (fun {_ _ _} h => by cases h) fun h => h.elim
    intro _ r hr _
    rcases r with _ | ⟨c, cs⟩
    · exact .past fun {more _ _} h => setFrom_suffix readSet_suffix (t := ')' :: more) h
    · refine (isReader_setStep m b outer c).continues_bind cs (g := setRest m fuel)
        (l := fun more => setRest m (fuel + (more.length + 1))) ?_ ?_ ?_ ?_
      · rintro (⟨b', outer'⟩ | s) r hr' -
        · have hlt : r.length < fuel := by
            have := hr'.length_le
            have := hr.length_le
            rw [List.length_cons] at this
            omega
          exact ih b' outer' hlt
        · exact (IsReader.pure s).continues r
      · rintro more (⟨b', outer'⟩ | s) r s' r' h
        · exact readSet_suffix h
        · cases h
          exact List.suffix_refl _
      · rintro (⟨b', outer'⟩ | s) s' r h
        · rw [setRest, readSet_nil] at h
          cases h
        · cases h
          exact ⟨rfl, fun more => rfl⟩
      · rintro _ r s r' ⟨⟨⟨b', outer'⟩, rfl⟩, hstall⟩ h
        rw [setRest] at h
        rcases hstall with rfl | ⟨cs, rfl, hcs⟩
        · rw [readSet_nil] at h
          cases h
        · rw [readSet_hyphen hcs] at h
          cases h

theorem isReader_bracketed (m : Mode) : IsReader never (bracketed m) where
  suffix := by
    intro t s r h
    obtain ⟨⟨b, r'⟩, hstart, hread⟩ := Option.bind_eq_some_iff.1 h
    exact (readSet_suffix hread).trans ((Bracket.isReader_start m).suffix hstart)
  continues t := by
    have hlength (r more : Text) :
        (r ++ ')' :: more).length + 1 = r.length + 1 + (more.length + 1) := by
      rw [List.length_append, List.length_cons]
      omega
    refine (Bracket.isReader_start m).continues_bind t
      (g := fun x => readSet m (x.2.length + 1) x.1 [] x.2)
      (l := fun _ x => readSet m (x.2.length + 1) x.1 [] x.2) ?_ readSet_suffix ?_ ?_
    · intro b r _ _
      simp only [hlength]
      exact readSet_continues m b [] (Nat.lt_succ_self _)
    · intro b s r h
      rw [readSet_nil] at h
      cases h
    · rintro b _ s r rfl h
      rw [readSet_nil] at h
      cases h

end ScriptStyle.Pattern
