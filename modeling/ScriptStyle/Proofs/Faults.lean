import Mathlib.Data.List.Forall2
import ScriptStyle.Proofs.Acceptance
import ScriptStyle.Proofs.Tokens

/-!
# The faults of a tree

A fault is a part of a tree that is damage by itself: a wrap of lexemes that fit nowhere, or a lexeme
that is missing. Two faults may begin at the same place and have the same characters, so a part is
told from all others by its address, which is the list of the numbers of the parts that lead to it.

There are three ways to ask for damage: the search that enters marked nodes only, the report that goes
through the whole tree, and the attempt to make a model. `Tree.damage_of_marks` says that they agree
on every tree as long as a node has its mark if and only if there is a fault in it, that the report
holds each fault once and in the order of the text, and that an attempt that fails gives the first.
-/

namespace ScriptStyle

open Position (origin)
open Text (byteSize byteSize_append)

namespace Tree

/-- What holds of a node if it holds of its parts holds of all trees. -/
theorem induct {P : Tree → Prop} (leaf : ∀ kind chars, P (leaf kind chars))
    (missing : ∀ spelling, P (missing spelling))
    (node : ∀ k ts, (∀ t ∈ ts, P t) → P (node k ts)) (t : Tree) : P t :=
  @Tree.rec P (fun ts => ∀ t ∈ ts, P t) leaf missing node (List.forall_mem_nil P)
    (fun _ _ ht hts => List.forall_mem_cons.2 ⟨ht, hts⟩) t

/-! ## Parts and their addresses -/

/-- The part of a tree at an address. -/
def part? (t : Tree) : List Nat → Option Tree
  | [] => some t
  | i :: address => t.children[i]?.bind (·.part? address)

/-- The text of a tree before its part at an address. -/
def textBefore (t : Tree) : List Nat → Text
  | [] => []
  | i :: address =>
    textOf (t.children.take i) ++ t.children[i]?.elim [] (·.textBefore address)

/-- The tree is damage by itself. -/
def isFault : Tree → Bool
  | leaf _ _ => false
  | missing _ => true
  | node k _ => k = .error

/-- A fault stands at an address. -/
def HasFaultAt (t : Tree) (address : List Nat) : Prop :=
  ∃ u, t.part? address = some u ∧ u.isFault = true

/-- Some part of the tree is a fault. -/
def HasFault (t : Tree) : Prop := ∃ address, t.HasFaultAt address

mutual

/-- The addresses of the faults of a tree. -/
def faults : Tree → List (List Nat)
  | leaf _ _ => []
  | missing _ => [[]]
  | node k ts => (if k = .error then [[]] else []) ++ faultsFrom 0 ts

/-- The addresses of the faults of the parts of a node, from the part with number `i` on. -/
def faultsFrom (i : Nat) : List Tree → List (List Nat)
  | [] => []
  | t :: ts => t.faults.map (i :: ·) ++ faultsFrom (i + 1) ts

end

variable {i : Nat} {k : NodeKind} {t : Tree} {ts us : List Tree} {address : List Nat}

theorem mem_faultsFrom : address ∈ faultsFrom i ts ↔
    ∃ j t rest, address = (i + j) :: rest ∧ ts[j]? = some t ∧ rest ∈ t.faults := by
  induction ts generalizing i with
  | nil => simp [faultsFrom]
  | cons t ts ih =>
    rw [faultsFrom, List.mem_append, List.mem_map, ih]
    constructor
    · rintro (⟨rest, hrest, rfl⟩ | ⟨j, u, rest, rfl, hu, hrest⟩)
      · exact ⟨0, t, rest, rfl, rfl, hrest⟩
      · exact ⟨j + 1, u, rest, by rw [Nat.add_right_comm, Nat.add_assoc], hu, hrest⟩
    · rintro ⟨_ | j, u, rest, rfl, hu, hrest⟩
      · cases hu
        exact .inl ⟨rest, hrest, rfl⟩
      · exact .inr ⟨j, u, rest, by rw [Nat.add_right_comm, Nat.add_assoc], hu, hrest⟩

/-- The addresses are those of the faults. -/
theorem mem_faults (t : Tree) (address : List Nat) : address ∈ t.faults ↔ t.HasFaultAt address := by
  induction t using induct generalizing address with
  | leaf kind chars =>
    cases address <;> simp [faults, HasFaultAt, part?, isFault, children]
  | missing spelling =>
    cases address <;> simp [faults, HasFaultAt, part?, isFault, children]
  | node k ts ih =>
    cases address with
    | nil =>
      have hinner : [] ∉ faultsFrom 0 ts := by
        rw [mem_faultsFrom]
        rintro ⟨_, _, _, ⟨⟩, _⟩
      by_cases hk : k = .error <;> simp [faults, HasFaultAt, part?, isFault, hk, hinner]
    | cons i rest =>
      have hown : (i :: rest) ∉ (if k = .error then [[]] else [] : List (List Nat)) := by
        split <;> simp
      have hinner : (i :: rest) ∈ faultsFrom 0 ts ↔
          ∃ t, ts[i]? = some t ∧ rest ∈ t.faults := by
        rw [mem_faultsFrom]
        constructor
        · rintro ⟨j, t, _, heq, ht, hrest⟩
          rw [Nat.zero_add] at heq
          cases heq
          exact ⟨t, ht, hrest⟩
        · rintro ⟨t, ht, hrest⟩
          exact ⟨i, t, rest, by rw [Nat.zero_add], ht, hrest⟩
      rw [faults, List.mem_append, or_iff_right hown, hinner]
      constructor
      · rintro ⟨t, ht, hrest⟩
        obtain ⟨u, hu, hfault⟩ := (ih t (List.mem_of_getElem? ht) rest).1 hrest
        exact ⟨u, by rw [part?, children, ht, Option.bind_some, hu], hfault⟩
      · rintro ⟨u, hu, hfault⟩
        obtain ⟨t, ht, hu⟩ := Option.bind_eq_some_iff.1 hu
        exact ⟨t, ht, (ih t (List.mem_of_getElem? ht) rest).2 ⟨u, hu, hfault⟩⟩

theorem pairwise_faultsFrom (h : ∀ t ∈ ts, t.faults.Pairwise (· < ·)) :
    (faultsFrom i ts).Pairwise (· < ·) := by
  induction ts generalizing i with
  | nil =>
    rw [faultsFrom]
    exact .nil
  | cons t ts ih =>
    obtain ⟨ht, hts⟩ := List.forall_mem_cons.1 h
    rw [faultsFrom]
    refine List.pairwise_append.2 ⟨?_, ih hts, ?_⟩
    · rw [List.pairwise_map]
      exact ht.imp fun hlt => List.cons_lt_cons_iff.2 (.inr ⟨rfl, hlt⟩)
    · intro a ha b hb
      obtain ⟨rest, -, rfl⟩ := List.mem_map.1 ha
      obtain ⟨j, u, rest', rfl, -⟩ := mem_faultsFrom.1 hb
      exact List.cons_lt_cons_iff.2 (.inl (by omega))

/-- The faults come in the order of the text, a wrap before what is inside of it, and none comes
twice. -/
theorem pairwise_faults (t : Tree) : t.faults.Pairwise (· < ·) := by
  induction t using induct with
  | leaf kind chars =>
    rw [faults]
    exact .nil
  | missing spelling =>
    rw [faults]
    exact List.pairwise_singleton _ _
  | node k ts ih =>
    rw [faults]
    refine List.pairwise_append.2 ⟨?_, pairwise_faultsFrom ih, ?_⟩
    · split
      · exact List.pairwise_singleton _ _
      · exact .nil
    · intro a ha b hb
      obtain ⟨j, u, rest, rfl, -⟩ := mem_faultsFrom.1 hb
      split at ha
      · rw [List.mem_singleton.1 ha]
        exact List.nil_lt_cons _ _
      · cases ha

/-! ## The report -/

/-- What is said about a fault. -/
def faultMessage : Tree → Text
  | missing spelling => Damage.missingMessage spelling
  | _ => Damage.wrapMessage

/-- The report of a fault that stands behind a text. -/
def faultReport (before : Text) (t : Tree) : Damage where
  start := byteSize before
  stop := byteSize (before ++ t.text)
  place := origin.advance before
  context := Damage.shown t.text
  message := t.faultMessage

/-- The report of the fault at an address in a tree that stands behind a text. -/
def Reports (t : Tree) (before : Text) (address : List Nat) (d : Damage) : Prop :=
  ∃ u, t.part? address = some u ∧ d = u.faultReport (before ++ t.textBefore address)

/-- The report of a part is a report of the node. -/
theorem Reports.inside {before : Text} {front : List Tree} {d : Damage}
    (h : t.Reports (before ++ textOf front) address d) :
    (node k (front ++ t :: ts)).Reports before (front.length :: address) d := by
  obtain ⟨u, hu, rfl⟩ := h
  have hpart : (front ++ t :: ts)[front.length]? = some t := by simp
  refine ⟨u, ?_, ?_⟩
  · rw [part?, children, hpart, Option.bind_some, hu]
  · rw [textBefore, children, hpart, List.take_left, Option.elim_some, List.append_assoc]

theorem reports_damageFromAll (k : NodeKind) (before : Text) (front : List Tree)
    (h : ∀ t ∈ ts, ∀ before, List.Forall₂ (t.Reports before) t.faults
      (damageFrom (byteSize before) (origin.advance before) t)) :
    List.Forall₂ ((node k (front ++ ts)).Reports before) (faultsFrom front.length ts)
      (damageFromAll (byteSize (before ++ textOf front))
        (origin.advance (before ++ textOf front)) ts) := by
  -- The parts that have been passed are `front`: their number is the next number of an address, and
  -- their text stands before the next part.
  induction ts generalizing front with
  | nil =>
    rw [faultsFrom, damageFromAll]
    exact .nil
  | cons t ts ih =>
    obtain ⟨ht, hts⟩ := List.forall_mem_cons.1 h
    have hrest := ih (front ++ [t]) hts
    rw [List.append_assoc, List.singleton_append, List.length_append, List.length_singleton,
      textOf_append, textOf_cons, textOf_nil, List.append_nil, ← List.append_assoc] at hrest
    rw [faultsFrom, damageFromAll, ← byteSize_append, advance_eq, ← Position.advance_append]
    refine List.rel_append (List.forall₂_map_left_iff.2 ?_) hrest
    exact (ht (before ++ textOf front)).imp fun _ _ hd => hd.inside

/-- The damage of a tree is the list of the reports of its faults. -/
theorem reports_damageFrom (t : Tree) (before : Text) :
    List.Forall₂ (t.Reports before) t.faults
      (damageFrom (byteSize before) (origin.advance before) t) := by
  induction t using induct generalizing before with
  | leaf kind chars =>
    rw [faults, damageFrom]
    exact .nil
  | missing spelling =>
    rw [faults, damageFrom]
    refine .cons ⟨missing spelling, rfl, ?_⟩ .nil
    rw [textBefore, List.append_nil, faultReport, text_missing, List.append_nil]
    rfl
  | node k ts ih =>
    have hinner := reports_damageFromAll k before [] ih
    rw [textOf_nil, List.append_nil] at hinner
    rw [faults, damageFrom]
    by_cases hk : k = .error
    · rw [if_pos hk, if_pos hk]
      refine .cons ⟨node k ts, rfl, ?_⟩ hinner
      rw [textBefore, List.append_nil, faultReport, byteSize_append, text_node]
      rfl
    · rw [if_neg hk, if_neg hk]
      exact hinner

theorem reports_damage (t : Tree) : List.Forall₂ (t.Reports []) t.faults t.damage :=
  reports_damageFrom t []

end Tree

/-- Some reports come in the order of the text and stay between two offsets. -/
structure Damage.AreOrdered (first last : Nat) (ds : List Damage) : Prop where
  sorted : ds.Pairwise (·.start ≤ ·.start)
  within : ∀ d ∈ ds, first ≤ d.start ∧ d.start ≤ last

namespace Damage.AreOrdered

variable {first middle last : Nat} {ds es : List Damage}

theorem nil (first last : Nat) : AreOrdered first last [] := ⟨.nil, by simp⟩

theorem append (hfirst : first ≤ middle) (hlast : middle ≤ last)
    (h : AreOrdered first middle ds) (h' : AreOrdered middle last es) :
    AreOrdered first last (ds ++ es) where
  sorted := by
    refine List.pairwise_append.2 ⟨h.sorted, h'.sorted, ?_⟩
    intro d hd e he
    exact Nat.le_trans (h.within d hd).2 (h'.within e he).1
  within := by
    intro d hd
    rcases List.mem_append.1 hd with hd | hd
    · exact ⟨(h.within d hd).1, Nat.le_trans (h.within d hd).2 hlast⟩
    · exact ⟨Nat.le_trans hfirst (h'.within d hd).1, (h'.within d hd).2⟩

/-- A report may be put in front that begins with the first offset. -/
theorem cons {d : Damage} (hstart : d.start = first) (hle : first ≤ last)
    (h : AreOrdered first last ds) : AreOrdered first last (d :: ds) where
  sorted := List.pairwise_cons.2 ⟨fun e he => hstart ▸ (h.within e he).1, h.sorted⟩
  within := List.forall_mem_cons.2 ⟨⟨hstart.ge, hstart.trans_le hle⟩, h.within⟩

end Damage.AreOrdered

namespace Tree

open Damage (AreOrdered)

variable {ts : List Tree}

theorem areOrdered_damageFromAll
    (h : ∀ t ∈ ts, ∀ offset p, AreOrdered offset (offset + byteSize t.text) (damageFrom offset p t))
    (offset : Nat) (p : Position) :
    AreOrdered offset (offset + byteSize (textOf ts)) (damageFromAll offset p ts) := by
  induction ts generalizing offset p with
  | nil =>
    rw [damageFromAll]
    exact .nil _ _
  | cons t ts ih =>
    obtain ⟨ht, hts⟩ := List.forall_mem_cons.1 h
    rw [damageFromAll, textOf_cons, byteSize_append, ← Nat.add_assoc]
    exact (ht offset p).append (Nat.le_add_right _ _) (Nat.le_add_right _ _) (ih hts _ _)

/-- The damage of a tree is reported in the order of the text. -/
theorem areOrdered_damageFrom (t : Tree) (offset : Nat) (p : Position) :
    AreOrdered offset (offset + byteSize t.text) (damageFrom offset p t) := by
  induction t using induct generalizing offset p with
  | leaf kind chars =>
    rw [damageFrom]
    exact .nil _ _
  | missing spelling =>
    rw [damageFrom]
    exact (AreOrdered.nil _ _).cons rfl (Nat.le_add_right _ _)
  | node k ts ih =>
    have hinner := areOrdered_damageFromAll ih offset p
    rw [damageFrom, text_node]
    dsimp only
    split
    · exact hinner.cons rfl (Nat.le_add_right _ _)
    · exact hinner

/-! ## The three ways to ask for damage -/

theorem damage_ne_nil_iff (t : Tree) : t.damage ≠ [] ↔ t.HasFault := by
  have hreports := t.reports_damage
  rw [← List.length_pos_iff, ← hreports.length_eq, List.length_pos_iff_exists_mem]
  exact exists_congr (t.mem_faults ·)

theorem isDamaged_iff (t : Tree) : t.isDamaged = true ↔ t.HasFault := by
  rw [← damage_ne_nil_iff, Ne, damage_eq_nil, Bool.not_eq_false]

theorem anyFindsDamage_eq {marks : Tree → Bool} {ts : List Tree}
    (h : ∀ t ∈ ts, t.findsDamage marks = t.isDamaged) :
    anyFindsDamage marks ts = anyDamaged ts := by
  induction ts with
  | nil => rw [anyFindsDamage, anyDamaged]
  | cons t ts ih =>
    obtain ⟨ht, hts⟩ := List.forall_mem_cons.1 h
    rw [anyFindsDamage, anyDamaged, ht, ih hts]

/-- The search finds what there is to find, because it passes over nothing that is damaged. -/
theorem findsDamage_eq {marks : Tree → Bool} (hmarks : ∀ u, marks u = u.isDamaged) (t : Tree) :
    t.findsDamage marks = t.isDamaged := by
  induction t using induct with
  | leaf kind chars => rw [findsDamage, isDamaged]
  | missing spelling => rw [findsDamage, isDamaged]
  | node k ts ih =>
    rw [findsDamage, anyFindsDamage_eq ih, hmarks, isDamaged]
    cases decide (k = .error) <;> cases anyDamaged ts <;> rfl

theorem ofTree?_eq_error_iff {t : Tree} {filename : Text} {e : SyntaxError} :
    Model.ofTree? t filename = .error e ↔
      ∃ d ds, t.damage = d :: ds ∧ e = ⟨filename, d.line, d.column, d.message, d.context⟩ := by
  rw [Model.ofTree?]
  cases t.damage with
  | nil => simp
  | cons d ds => simp [SyntaxError.ofDamage, eq_comm]

/-- If a node has its mark exactly when some part of it is a fault, the search finds damage if and
only if the report holds some, and if and only if the tree has no model. The report has one entry for
each fault, in the order of the text and by offsets that never decrease, with the characters and the
place of the fault; and a tree without a model is refused with its first entry. -/
theorem damage_of_marks {marks : Tree → Bool} (hmarks : ∀ u, marks u = true ↔ u.HasFault) (t : Tree)
    (filename : Text) :
    (t.findsDamage marks = true ↔ t.damage ≠ []) ∧
    (t.damage ≠ [] ↔ ∃ e, Model.ofTree? t filename = .error e) ∧
    (∃ addresses : List (List Nat), addresses.Pairwise (· < ·) ∧
      (∀ address, address ∈ addresses ↔ t.HasFaultAt address) ∧
      List.Forall₂ (t.Reports []) addresses t.damage) ∧
    t.damage.Pairwise (·.start ≤ ·.start) ∧
    ∀ e, Model.ofTree? t filename = .error e ↔
      ∃ d ds, t.damage = d :: ds ∧ e = ⟨filename, d.line, d.column, d.message, d.context⟩ := by
  have hmarked (u : Tree) : marks u = u.isDamaged := by
    rw [Bool.eq_iff_iff, hmarks, isDamaged_iff]
  have hfails : t.damage ≠ [] ↔ ∃ e, Model.ofTree? t filename = .error e := by
    simp only [ofTree?_eq_error_iff]
    cases t.damage <;> simp
  refine ⟨?_, hfails, ⟨t.faults, t.pairwise_faults, t.mem_faults, t.reports_damage⟩,
    (areOrdered_damageFrom t 0 origin).sorted, fun e => ofTree?_eq_error_iff⟩
  rw [findsDamage_eq hmarked, isDamaged_iff, damage_ne_nil_iff]

/-- A wrap with a missing lexeme inside, both at the beginning of the second line, and one more
missing lexeme behind them. -/
def threeFaults : Tree :=
  .node .program [.leaf .name ['a'], .leaf .blank ['\n'],
    .node .error [.missing ")", .leaf .punctuator ['}']], .missing ";"]

/-- The three faults are found in either way, and the wrap is the reason why there is no model. -/
theorem damage_of_marks_threeFaults :
    (∀ u, isDamaged u = true ↔ u.HasFault) ∧
    (threeFaults.findsDamage isDamaged = true ↔ threeFaults.damage ≠ []) ∧
    threeFaults.faults = [[2], [2, 0], [3]] ∧
    threeFaults.damage = [⟨2, 3, ⟨2, 0⟩, ['}'], "syntax error".toList⟩,
      ⟨2, 2, ⟨2, 0⟩, [], "missing )".toList⟩, ⟨3, 3, ⟨2, 1⟩, [], "missing ;".toList⟩] ∧
    Model.ofTree? threeFaults [] = .error ⟨[], 2, 1, "syntax error".toList, ['}']⟩ :=
  have h := damage_of_marks isDamaged_iff threeFaults []
  ⟨isDamaged_iff, h.1, rfl, rfl, (h.2.2.2.2 _).2 ⟨_, _, rfl, rfl⟩⟩

end Tree

end ScriptStyle
