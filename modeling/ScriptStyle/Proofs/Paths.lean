import Mathlib.Data.Char
import Mathlib.Data.List.Lex
import Mathlib.Data.Prod.Lex
import ScriptStyle.Files.Collect

/-!
# The order of paths

Paths are compared by the keys of their components: the number of a kind of component, and for a
name its characters. So their order is a linear order up to spelling, sorting by it puts the
spellings of a path next to each other, and what is left of a sorted list after neighbours have been
reduced holds no path twice.
-/

namespace ScriptStyle

namespace Lexicographic

/-! ## Lists over a linear order

The lemmas of the core library are about another instance of `≤`, which is the same relation but
carries no linear order. -/

variable {α : Type} [LinearOrder α] {a b : α} {as bs : List α}

theorem nil_le : [] ≤ as := not_lt.mp (List.not_lt_nil as)

theorem not_cons_le_nil : ¬ a :: as ≤ [] := not_le.mpr (List.nil_lt_cons a as)

theorem cons_le_cons_iff : a :: as ≤ b :: bs ↔ a < b ∨ a = b ∧ as ≤ bs := by
  have hlt : a :: as < b :: bs ↔ a < b ∨ a = b ∧ as < bs := List.cons_lt_cons_iff
  rw [le_iff_lt_or_eq, le_iff_lt_or_eq, hlt, List.cons.injEq]
  tauto

end Lexicographic

namespace Component

open Lexicographic

/-! ## Keys -/

/-- What a component is compared by: its kind, then its characters. -/
def key : Component → ℕ ×ₗ List Char
  | name n => toLex (rank (name n), n)
  | c => toLex (c.rank, [])

theorem key_injective : Function.Injective key := by
  intro a b h
  cases a <;> cases b <;> simp_all [key, rank]

theorem leText_iff {s t : Text} : leText s t ↔ s ≤ t := by
  induction s generalizing t with
  | nil => simp [leText, nil_le]
  | cons a s ih =>
    cases t with
    | nil => simp [leText, not_cons_le_nil]
    | cons b t =>
      have hlt : a.toNat < b.toNat ↔ a < b := Iff.rfl
      simp [leText, ih, cons_le_cons_iff, hlt]

theorem le_iff {a b : Component} : a.le b ↔ a.key ≤ b.key := by
  cases a <;> cases b <;> simp [le, key, rank, leText_iff, Prod.Lex.toLex_le_toLex]

theorem leList_iff {as bs : List Component} : leList as bs ↔ as.map key ≤ bs.map key := by
  induction as generalizing bs with
  | nil => simp [leList, nil_le]
  | cons a as ih =>
    cases bs with
    | nil => simp [leList, not_cons_le_nil]
    | cons b bs =>
      rw [leList, List.map_cons, List.map_cons, cons_le_cons_iff]
      split
      next h => simp [h, ih]
      next h =>
        have hkey : a.key ≠ b.key := key_injective.ne h
        simp [le_iff, hkey, le_iff_lt_or_eq]

end Component

namespace Path

/-- What a path is compared by: the keys of its components. -/
def key (p : Text) : List (ℕ ×ₗ List Char) := (components p).map Component.key

theorem le_iff {p q : Text} : le p q ↔ key p ≤ key q := Component.leList_iff

theorem same_iff {p q : Text} : same p q ↔ key p = key q := by
  simp [same, key, Component.key_injective.list_map.eq_iff]

theorem pairwise_mergeSort (ps : List Text) :
    (ps.mergeSort le).Pairwise fun p q => key p ≤ key q := by
  have htrans : ∀ p q r, le p q → le q r → le p r := fun p q r hpq hqr =>
    le_iff.mpr ((le_iff.mp hpq).trans (le_iff.mp hqr))
  have htotal : ∀ p q, le p q || le q p := fun p q => by
    simpa [le_iff] using le_total (key p) (key q)
  exact (List.pairwise_mergeSort htrans htotal ps).imp le_iff.mp

end Path

namespace Files

/-! ## Neighbours reduced -/

theorem distinct_subset (ps : List Text) : distinct ps ⊆ ps := by
  induction ps with
  | nil => simp [distinct]
  | cons p ps ih =>
    rw [distinct]
    split
    next => simp
    next q qs h =>
      rw [h] at ih
      have hqs : qs ⊆ ps := fun r hr => ih (List.mem_cons_of_mem q hr)
      split
      · exact List.cons_subset_cons p hqs
      · exact List.cons_subset_cons p ih

theorem pairwise_distinct {ps : List Text} (h : ps.Pairwise fun p q => Path.key p ≤ Path.key q) :
    (distinct ps).Pairwise fun p q => Path.key p < Path.key q := by
  induction ps with
  | nil => simp [distinct]
  | cons p ps ih =>
    obtain ⟨hle, hps⟩ := List.pairwise_cons.mp h
    have hdistinct := ih hps
    have hsub := distinct_subset ps
    rw [distinct]
    split
    next => simp
    next q qs hcons =>
      rw [hcons] at hdistinct hsub
      obtain ⟨hlt, hqs⟩ := List.pairwise_cons.mp hdistinct
      have hpq : Path.key p ≤ Path.key q := hle q (hsub (by simp))
      split
      next hsame =>
        refine List.pairwise_cons.mpr ⟨fun r hr => ?_, hqs⟩
        exact hpq.trans_lt (hlt r hr)
      next hsame =>
        have hpq' : Path.key p < Path.key q := lt_of_le_of_ne hpq (mt Path.same_iff.mpr hsame)
        refine List.pairwise_cons.mpr ⟨fun r hr => ?_, hdistinct⟩
        obtain rfl | hr := List.mem_cons.mp hr
        · exact hpq'
        · exact hpq'.trans (hlt r hr)

/-! ## The files of a run -/

variable {disk : Disk Id} {paths files : List Text}

theorem collect_eq (disk : Disk Id) (paths : List Text) : (collect disk paths).run =
    (gather disk paths).run.map fun fs => distinct (fs.mergeSort Path.le) := rfl

theorem collect_eq_ok : (collect disk paths).run = .ok files ↔
    ∃ found, (gather disk paths).run = .ok found ∧ distinct (found.mergeSort Path.le) = files := by
  rw [collect_eq]
  cases (gather disk paths).run <;> simp [Except.map]

/-- The files come in the order of paths, no path twice. -/
theorem pairwise_collect (h : (collect disk paths).run = .ok files) :
    files.Pairwise fun p q => Path.key p < Path.key q := by
  obtain ⟨found, -, rfl⟩ := collect_eq_ok.1 h
  exact pairwise_distinct (Path.pairwise_mergeSort found)

end Files

end ScriptStyle
