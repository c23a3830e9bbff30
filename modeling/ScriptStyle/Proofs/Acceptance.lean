import ScriptStyle.Source.Read
import ScriptStyle.Proofs.Repairs

/-!
# Accepted texts

A text has a model if its tree reports no damage. `Model.ofText_eq_ok_iff` says that these are the
texts which the grammar reads to the end, and that the model then is the one of the tree that was
read; so whatever holds of the models of all trees holds of the models of all texts.
-/

namespace ScriptStyle

namespace Tree

mutual

/-- Damage is reported where there is some. -/
theorem damageFrom_eq_nil (offset : Nat) (p : Position) :
    ∀ t : Tree, damageFrom offset p t = [] ↔ t.isDamaged = false
  | leaf _ _ => by simp [damageFrom, isDamaged]
  | missing _ => by simp [damageFrom, isDamaged]
  | node k ts => by
    have ih := damageFromAll_eq_nil offset p ts
    rw [damageFrom, isDamaged]
    by_cases hk : k = .error
    · simp [hk]
    · simp [hk, ih]

theorem damageFromAll_eq_nil (offset : Nat) (p : Position) :
    ∀ ts : List Tree, damageFromAll offset p ts = [] ↔ anyDamaged ts = false
  | [] => by simp [damageFromAll, anyDamaged]
  | t :: ts => by
    have h := damageFrom_eq_nil offset p t
    have hs := damageFromAll_eq_nil (offset + Text.byteSize t.text) (t.advance p) ts
    rw [damageFromAll, anyDamaged, List.append_eq_nil_iff, h, hs, Bool.or_eq_false_iff]

end

theorem damage_eq_nil (t : Tree) : t.damage = [] ↔ t.isDamaged = false :=
  damageFrom_eq_nil 0 .origin t

/-- No repair is made to what the grammar reads. -/
theorem ofText_of_parse? {text : Text} {t : Tree} (h : parse? text = some t) : ofText text = t := by
  rw [ofText, h]

end Tree

namespace Model

theorem ofTree?_eq_ok_iff {t : Tree} {filename : Text} {m : Model} :
    ofTree? t filename = .ok m ↔ t.isDamaged = false ∧ m = ofTree t filename := by
  rw [← Tree.damage_eq_nil, ofTree?]
  split
  · next h => simp [h, eq_comm]
  · next d ds h => simp [h]

/-- A text is accepted if and only if the grammar reads all of it without damage. -/
theorem ofText_eq_ok_iff {text filename : Text} {m : Model} :
    ofText text filename = .ok m ↔
      ∃ t, Tree.parse? text = some t ∧ t.isDamaged = false ∧ m = ofTree t filename := by
  rw [ofText, ofTree?_eq_ok_iff, Tree.ofText]
  cases h : Tree.parse? text with
  | none => simp [Tree.isDamaged_repair h]
  | some t => simp

/-- The model of an accepted text has that text. -/
theorem text_of_ofText {text filename : Text} {m : Model} (h : ofText text filename = .ok m) :
    m.text = text := by
  obtain ⟨t, ht, -, rfl⟩ := ofText_eq_ok_iff.1 h
  exact Tree.text_of_parse? ht

end Model

end ScriptStyle
