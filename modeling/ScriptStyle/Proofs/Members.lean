import Mathlib.Data.List.Forall2
import ScriptStyle.Proofs.AnyValue

/-!
# Records given in part

An object may give any of the fields of a record, in any order and with anything else in between.
`Fields` says what the fields of a record are called and which texts stand for what they hold, and
`Fields.Gives` what record an object stands for: a field that the object gives has the value that
it is given, and every other field has its default. The reader of a record takes every such object
as this record (`Fields.ReadBy.exists_takes`), if its slots are there for the fields.
-/

namespace ScriptStyle.Json

/-! ## Objects -/

/-- The members of an object: names, each with the text of its value. -/
abbrev Members := List (Text × Text)

/-- The text is an object with these members, whatever its layout and however their names are
spelled. -/
inductive IsObject (ms : Members) : Text → Prop
  | braces {u : Text} (h : WrittenMembers (· = ·) true ms u) : IsObject ms (openBrace :: u)

/-- The text of the value under a name, if there is one. -/
def given? (ms : Members) (name : String) : Option Text :=
  (ms.find? (·.1 = name.toList)).map (·.2)

theorem given?_cons (m : Text × Text) (ms : Members) (name : String) :
    given? (m :: ms) name = if m.1 = name.toList then some m.2 else given? ms name := by
  by_cases hm : m.1 = name.toList <;> simp [given?, hm]

theorem given?_eq_none {ms : Members} {name : String} (h : ∀ m ∈ ms, m.1 ≠ name.toList) :
    given? ms name = none := by
  simpa [given?] using h

/-- Nothing is given under a name, or an object without members. -/
def LeavesOut (ms : Members) (name : String) : Prop := ∀ t, given? ms name = some t → IsObject [] t

/-- Under a name, two objects give the same, or both give nothing. -/
def GiveAlike (ms ms' : Members) (name : String) : Prop :=
  given? ms' name = given? ms name ∨ LeavesOut ms name ∧ LeavesOut ms' name

/-- The fields of a record. -/
structure Fields (ι σ : Type) where
  /-- What a field is called. -/
  name : ι → String
  /-- What a field holds. -/
  Value : ι → Type
  /-- A field of a record. -/
  value : (i : ι) → σ → Value i
  /-- The record with another value in a field. -/
  set : (i : ι) → Value i → σ → σ
  /-- The text stands for a value of the field. -/
  Spells : (i : ι) → Value i → Text → Prop
  /-- The record of all defaults. -/
  default : σ
  name_injective : Function.Injective name
  value_set : ∀ i v s, value i (set i v s) = v
  value_set_of_ne : ∀ i j v s, j ≠ i → value j (set i v s) = value j s
  ext : ∀ s s', (∀ i, value i s = value i s') → s = s'

namespace Fields

variable {ι σ ρ : Type} (F : Fields ι σ)

/-- The members give no field twice and each one a value of its own kind. Under any other name there
is any value. -/
structure Admits (ms : Members) : Prop where
  once : ms.Pairwise fun m m' => m.1 = m'.1 → ∀ i, m.1 ≠ (F.name i).toList
  typed : ∀ m ∈ ms, ∀ i, m.1 = (F.name i).toList → ∃ v, F.Spells i v m.2
  others : ∀ m ∈ ms, (∀ i, m.1 ≠ (F.name i).toList) → IsValue m.2

/-- A record has what the members give, and besides what it had before. -/
def Updates (before : σ) (ms : Members) (s : σ) : Prop :=
  ∀ i, match given? ms (F.name i) with
    | some t => F.Spells i (F.value i s) t
    | none => F.value i s = F.value i before

/-- The record has what the members give, and defaults besides. -/
def Gives (ms : Members) (s : σ) : Prop := F.Updates F.default ms s

/-- The text is an object that gives the record. -/
def Describes (s : σ) (t : Text) : Prop := ∃ ms, IsObject ms t ∧ F.Admits ms ∧ F.Gives ms s

/-! ## Reading fields -/

/-- A table of slots is there for the fields: the slot with the name of a field takes every text
that stands for a value of the field, and sets the field to it. -/
structure ReadBy (read : ρ → Input → Except Error ((σ → σ) × Input))
    (slots : List (String × ρ)) : Prop where
  takes : ∀ {i v t}, F.Spells i v t → ∃ r, Input.slot? slots (F.name i).toList = some r ∧
    Input.Takes (read r) t (F.set i v)
  names : ∃ is : List ι, slots.map (·.1) = is.map F.name

variable {F} {read : ρ → Input → Except Error ((σ → σ) × Input)} {slots : List (String × ρ)}
  {ms : Members}

theorem ReadBy.spells_unique (h : F.ReadBy read slots) {i : ι} {v w : F.Value i} {t : Text}
    (hv : F.Spells i v t) (hw : F.Spells i w t) : v = w := by
  obtain ⟨r, hr, htakes⟩ := h.takes hv
  obtain ⟨r', hr', htakes'⟩ := h.takes hw
  obtain rfl := Option.some.inj (hr.symm.trans hr')
  rw [← F.value_set i v F.default, htakes.unique htakes', F.value_set]

/-- Members give one record at most. -/
theorem ReadBy.gives_unique (h : F.ReadBy read slots) {s s' : σ} (hs : F.Gives ms s)
    (hs' : F.Gives ms s') : s = s' := by
  refine F.ext s s' fun i => ?_
  have hi := hs i
  have hi' := hs' i
  cases hgiven : given? ms (F.name i) with
  | none =>
    rw [hgiven] at hi hi'
    exact hi.trans hi'.symm
  | some t =>
    rw [hgiven] at hi hi'
    exact h.spells_unique hi hi'

theorem ReadBy.slot?_eq_none (h : F.ReadBy read slots) {k : Text}
    (hk : ∀ i, k ≠ (F.name i).toList) : Input.slot? slots k = none := by
  rw [Input.slot?, Option.map_eq_none_iff, List.find?_eq_none]
  intro x hx hxk
  obtain ⟨is, his⟩ := h.names
  have hname : x.1 ∈ is.map F.name := his ▸ List.mem_map_of_mem hx
  obtain ⟨i, -, hi⟩ := List.mem_map.mp hname
  exact hk i (by rw [hi, of_decide_eq_true hxk])

/-- Where all names differ, no field is given twice. -/
theorem once_of_nodup (h : (ms.map (·.1)).Nodup) :
    ms.Pairwise fun m m' => m.1 = m'.1 → ∀ i, m.1 ≠ (F.name i).toList :=
  (List.pairwise_map.mp h).imp fun hne heq => absurd heq hne

/-- What a member does to a record: it sets the field of its name, if there is one. -/
def Sets (F : Fields ι σ) (m : Text × Text) (f : σ → σ) : Prop :=
  ∀ i s, if m.1 = (F.name i).toList then F.Spells i (F.value i (f s)) m.2
    else F.value i (f s) = F.value i s

theorem ReadBy.exists_effect (h : F.ReadBy read slots) (hms : F.Admits ms) :
    ∀ m ∈ ms, ∃ f, Input.Effect read slots (· = ·) m f ∧ F.Sets m f := by
  rintro ⟨k, t⟩ hm
  by_cases hk : ∃ i, k = (F.name i).toList
  · obtain ⟨i, rfl⟩ := hk
    obtain ⟨v, hv⟩ := hms.typed _ hm i rfl
    obtain ⟨r, hr, htakes⟩ := h.takes hv
    refine ⟨F.set i v, .slot hr fun t' ht' => ht' ▸ htakes, fun j s => ?_⟩
    by_cases hj : j = i
    · subst hj
      rw [if_pos rfl, F.value_set]
      exact hv
    · have hname : (F.name i).toList ≠ (F.name j).toList := by
        intro heq
        exact hj (F.name_injective (String.toList_injective heq)).symm
      rw [if_neg hname, F.value_set_of_ne i j v s hj]
  · have hk : ∀ i, k ≠ (F.name i).toList := fun i hi => hk ⟨i, hi⟩
    have hvalue := hms.others _ hm hk
    refine ⟨id, .other (h.slot?_eq_none hk) fun t' ht' => ?_, fun i s => ?_⟩
    · exact ht' ▸ Input.skips_of_isValue hvalue
    · rw [if_neg (hk i), id]

/-- Where no field is set twice, every field is left as it was set, or as it was. -/
theorem updates_foldl {fs : List (σ → σ)} (hfs : List.Forall₂ F.Sets ms fs)
    (once : ms.Pairwise fun m m' => m.1 = m'.1 → ∀ i, m.1 ≠ (F.name i).toList) (s : σ) :
    F.Updates s ms (fs.foldl (fun s f => f s) s) := by
  induction hfs generalizing s with
  | nil => exact fun i => rfl
  | @cons m f ms fs hf hfs ih =>
    obtain ⟨hm, once⟩ := List.pairwise_cons.mp once
    intro i
    have hlater := ih once (f s) i
    have hset := hf i s
    rw [given?_cons, List.foldl_cons]
    -- The field that the first member sets is set by no later one.
    by_cases hi : m.1 = (F.name i).toList
    · have hnone : given? ms (F.name i) = none :=
        given?_eq_none fun m' hm' heq => hm m' hm' (hi.trans heq.symm) i hi
      rw [hnone] at hlater
      rw [if_pos hi] at hset ⊢
      simp only at hlater ⊢
      rwa [hlater]
    · rw [if_neg hi] at hset ⊢
      rwa [hset] at hlater

/-- An object that gives fields of a record is read as this record, with defaults for all others. -/
theorem ReadBy.exists_takes (h : F.ReadBy read slots) {t : Text} (ht : IsObject ms t)
    (hms : F.Admits ms) (title : String) :
    ∃ s, Input.Takes (Input.record read title slots F.default) t s ∧ F.Gives ms s := by
  have heffects := h.exists_effect hms
  have : Nonempty (σ → σ) := ⟨id⟩
  choose! f heffect hsets using heffects
  have hforall : List.Forall₂ (Input.Effect read slots (· = ·)) ms (ms.map f) := by
    rw [List.forall₂_map_right_iff, List.forall₂_same]
    exact heffect
  have hforall' : List.Forall₂ F.Sets ms (ms.map f) := by
    rw [List.forall₂_map_right_iff, List.forall₂_same]
    exact hsets
  have hkeys : ms.Pairwise fun m m' => m.1 = m'.1 → Input.slot? slots m.1 = none :=
    hms.once.imp fun honce heq => h.slot?_eq_none (honce heq)
  obtain ⟨ht⟩ := ht
  exact ⟨_, Input.takes_record ht hforall hkeys title F.default,
    updates_foldl hforall' hms.once F.default⟩

theorem ReadBy.takes_of_describes (h : F.ReadBy read slots) {t : Text} {s : σ}
    (hs : F.Describes s t) (title : String) :
    Input.Takes (Input.record read title slots F.default) t s := by
  obtain ⟨ms, ht, hms, hs⟩ := hs
  obtain ⟨s', htakes, hs'⟩ := h.exists_takes ht hms title
  rwa [h.gives_unique hs hs']

/-- Without members, every field has its default. -/
theorem ReadBy.eq_default (h : F.ReadBy read slots) {t : Text} (ht : IsObject [] t) {s : σ}
    (hs : F.Describes s t) : s = F.default := by
  have hdefault : F.Describes F.default t := ⟨[], ht, ⟨.nil, nofun, nofun⟩, fun _ => rfl⟩
  exact (h.takes_of_describes hs "").unique (h.takes_of_describes hdefault "")

end Fields

end ScriptStyle.Json
