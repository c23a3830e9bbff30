import Mathlib.Data.List.Induction
import Mathlib.Data.List.TakeWhile
import ScriptStyle.Syntax.Repair

/-!
# Repaired texts are damaged

A text without an undamaged tree gets one in which a repair shows. `Tree.isDamaged_repair` says that
the damage of the repair is always there to be seen, so that no text is taken for an undamaged one
because of it.

The search only finishes attempts that begin with a step inside the text: a wrap of at least one
character or an added lexeme. `Repair.Attempt.Begins` is this invariant of the queue. The first step
leaves a wrap or a missing lexeme in the tree, because nothing that is grafted before it covers the
place where it stands.
-/

namespace ScriptStyle

namespace Tree

/-- A tree that was read spells the text. -/
theorem text_of_parse? {text : Text} {t : Tree} (h : parse? text = some t) : t.text = text := by
  rw [parse?] at h
  split at h
  · next c hc =>
    cases h
    have htext := Rule.text_eq _ hc
    obtain ⟨d, -, hd⟩ := Rule.run_seq hc
    obtain ⟨e, -, he⟩ := Rule.run_seq hd
    obtain ⟨rfl, hrest⟩ := Rule.run_check he
    rw [Cursor.text, Cursor.text, List.isEmpty_iff.1 hrest, List.append_nil] at htext
    simpa using htext
  · cases h

theorem anyDamaged_append (ts us : List Tree) :
    anyDamaged (ts ++ us) = (anyDamaged ts || anyDamaged us) := by
  induction ts with
  | nil => rfl
  | cons t ts ih => rw [List.cons_append, anyDamaged, anyDamaged, ih, Bool.or_assoc]

theorem anyDamaged_singleton (t : Tree) : anyDamaged [t] = t.isDamaged := by
  rw [anyDamaged, anyDamaged, Bool.or_false]

end Tree

namespace Repair

open ScriptStyle.Tree (anyDamaged anyDamaged_append anyDamaged_singleton)

/-! ## Lexemes of a damaged text -/

theorem piecesFrom_nil (fuel offset : Nat) (afterOperand : Bool) :
    piecesFrom fuel offset afterOperand [] = [] := by
  cases fuel with
  | zero => rfl
  | succ fuel => simp [piecesFrom]

/-- The first lexeme of a text holds its first character. -/
theorem firstPiece_eq (start : Nat) (afterOperand : Bool) {cs : Text} (hcs : cs ≠ []) :
    (firstPiece start afterOperand cs).start = start ∧
      ∃ n, 0 < n ∧ (firstPiece start afterOperand cs).chars = cs.take n := by
  have hclosed (length : Nat) (c : Char) (hc : c != '\n' && c != '\r') (hhead : cs.head? = some c) :
      (closedOr start length cs).start = start ∧
        ∃ n, 0 < n ∧ (closedOr start length cs).chars = cs.take n := by
    unfold closedOr
    split
    · refine ⟨rfl, toLineEnd cs, ?_, rfl⟩
      obtain ⟨d, ds, rfl⟩ := List.exists_cons_of_ne_nil hcs
      obtain rfl : d = c := by simpa using hhead
      simp only [toLineEnd, Lexeme.run, List.takeWhile_cons, hc, if_true, List.length_cons]
      omega
    · exact ⟨rfl, length, by omega, rfl⟩
  obtain ⟨c, ds, rfl⟩ := List.exists_cons_of_ne_nil hcs
  unfold firstPiece
  simp only
  split
  · exact ⟨rfl, _, by omega, rfl⟩
  · split
    · exact ⟨rfl, _, by omega, rfl⟩
    · split
      · next h =>
        refine hclosed _ c ?_ rfl
        rw [Bool.or_eq_true, decide_eq_true_iff, decide_eq_true_iff] at h
        obtain rfl | rfl : c = '"' ∨ c = '\'' := h <;> decide
      · split
        · split <;> exact ⟨rfl, _, by omega, rfl⟩
        · split
          · next h =>
            refine hclosed _ c ?_ rfl
            rw [Bool.and_eq_true, decide_eq_true_iff] at h
            obtain rfl : c = '/' := h.1
            decide
          · split <;> exact ⟨rfl, _, by omega, rfl⟩

/-- Lexemes of a text that begins at an offset stand inside the text, hold characters, and do not
overlap. -/
structure Ordered (offset stop : Nat) (ps : List Piece) : Prop where
  begins : ∀ p ∈ ps, offset ≤ p.start
  nonempty : ∀ p ∈ ps, p.start < p.stop
  ends : ∀ p ∈ ps, p.stop ≤ stop
  apart : ps.Pairwise fun p q => p.stop ≤ q.start

theorem Ordered.nil (offset stop : Nat) : Ordered offset stop [] :=
  ⟨by simp, by simp, by simp, List.Pairwise.nil⟩

theorem Ordered.cons {offset middle stop : Nat} {p : Piece} {ps : List Piece}
    (h : Ordered middle stop ps) (hb : offset ≤ p.start) (hn : p.start < p.stop)
    (hm : p.stop ≤ middle) (he : p.stop ≤ stop) : Ordered offset stop (p :: ps) where
  begins := by
    intro q hq
    rcases List.mem_cons.1 hq with rfl | hq
    · exact hb
    · have := h.begins q hq
      omega
  nonempty := by
    intro q hq
    rcases List.mem_cons.1 hq with rfl | hq
    · exact hn
    · exact h.nonempty q hq
  ends := by
    intro q hq
    rcases List.mem_cons.1 hq with rfl | hq
    · exact he
    · exact h.ends q hq
  apart := List.pairwise_cons.2 ⟨fun q hq => Nat.le_trans hm (h.begins q hq), h.apart⟩

theorem ordered_piecesFrom (fuel offset : Nat) (afterOperand : Bool) (cs : Text) :
    Ordered offset (offset + cs.length) (piecesFrom fuel offset afterOperand cs) := by
  induction fuel generalizing offset afterOperand cs with
  | zero => exact Ordered.nil _ _
  | succ fuel ih =>
    have hrest (start n : Nat) (operand : Bool) (ds : Text) :
        Ordered (start + n) (start + ds.length)
          (piecesFrom fuel (start + n) operand (ds.drop n)) := by
      by_cases hn : n ≤ ds.length
      · have h := ih (start + n) operand (ds.drop n)
        rwa [List.length_drop, Nat.add_assoc, Nat.add_sub_cancel' hn] at h
      · rw [List.drop_eq_nil_of_le (by omega), piecesFrom_nil]
        exact Ordered.nil _ _
    rw [piecesFrom]
    simp only
    generalize hb : Lexeme.blanks cs = b
    split
    · exact Ordered.nil _ _
    · next hne =>
      have hne : cs.drop b ≠ [] := by simpa using hne
      have hlen : 0 < (cs.drop b).length := List.length_pos_iff.2 hne
      have hcs : offset + b + (cs.drop b).length = offset + cs.length := by
        rw [List.length_drop] at hlen ⊢
        omega
      split
      · next hc =>
        have h := hrest (offset + b) (Lexeme.comment (cs.drop b)) afterOperand (cs.drop b)
        rw [hcs] at h
        refine h.cons (Nat.le_add_right _ _) ?_ ?_ ?_ <;>
          simp only [Piece.stop, List.length_take] <;> omega
      · obtain ⟨hs, n, hn, hchars⟩ := firstPiece_eq (offset + b) afterOperand hne
        have h := hrest (offset + b) (firstPiece (offset + b) afterOperand (cs.drop b)).chars.length
          (firstPiece (offset + b) afterOperand (cs.drop b)).isOperand (cs.drop b)
        rw [hcs] at h
        have hstop : (firstPiece (offset + b) afterOperand (cs.drop b)).stop =
            offset + b + (firstPiece (offset + b) afterOperand (cs.drop b)).chars.length := by
          rw [Piece.stop, hs]
        rw [hstop]
        refine h.cons ?_ ?_ ?_ ?_ <;> simp only [Piece.stop, hs, hchars, List.length_take] <;> omega

theorem ordered_pieces (text : Text) : Ordered 0 text.length (pieces text).toList := by
  have h := ordered_piecesFrom (text.length + 1) 0 false text
  rwa [Nat.zero_add] at h

/-- A later lexeme ends behind the beginning of an earlier one. -/
theorem Ordered.start_lt_stop {offset stop : Nat} {ps : List Piece} (h : Ordered offset stop ps)
    {i j : Nat} {p q : Piece} (hij : i ≤ j) (hp : ps[i]? = some p) (hq : ps[j]? = some q) :
    p.start < q.stop := by
  obtain ⟨hi, rfl⟩ := List.getElem?_eq_some_iff.1 hp
  obtain ⟨hj, rfl⟩ := List.getElem?_eq_some_iff.1 hq
  rcases Nat.lt_or_eq_of_le hij with hlt | rfl
  · have h1 := h.nonempty _ (List.getElem_mem hi)
    have h2 := h.nonempty _ (List.getElem_mem hj)
    have h3 := List.pairwise_iff_getElem.1 h.apart i j hi hj hlt
    omega
  · exact h.nonempty _ (List.getElem_mem hi)

/-! ## Steps -/

/-- A step stands inside a text: it wraps at least one character, or adds a lexeme. -/
def Step.IsInside (text : Text) (s : Step) : Prop :=
  match s with
  | .wrap start inner seam => start < (Step.wrap start inner seam).stop ∧ start < text.length
  | .add place _ _ => place ≤ text.length

/-- What the first of some steps leaves in the tree of the edited text: something damaged that
covers a place of its own. -/
theorem grafts_cons {text : Text} {s : Step} (hs : s.IsInside text) (steps : List Step) :
    ∃ g gs, grafts text 0 (s :: steps) = g :: gs ∧ g.tree.isDamaged = true ∧ 0 < g.length ∧
      g.start < (edited 0 text (s :: steps)).length := by
  cases s with
  | wrap start inner seam =>
    obtain ⟨hlt, hin⟩ := hs
    refine ⟨_, _, rfl, rfl, ?_, ?_⟩
    · show 0 < (Step.wrap start inner seam).stop - start
      omega
    · have hb (t : Text) : (Step.blanked seam t).length = t.length := by
        cases seam <;> simp [Step.blanked]
      simp only [edited, List.length_append, List.length_take, List.length_drop, hb]
      omega
  | add place f ends =>
    have hin : place ≤ text.length := hs
    have hp : 0 < (Step.padded f ends).length := by simp [Step.padded]
    refine ⟨_, _, rfl, rfl, hp, ?_⟩
    simp only [edited, List.length_append, List.length_take]
    omega

/-! ## Grafts -/

theorem anyDamaged_graftLeaf {g : Graft} (gs : List Graft) (hg : g.tree.isDamaged = true)
    (hl : 0 < g.length) (k : LeafKind) (cs : Text) (back : Text) (offset : Nat)
    (h1 : offset ≤ g.start) (h2 : g.start < offset + cs.length) :
    anyDamaged (graftLeaf (g :: gs) k back offset cs) = true := by
  induction cs generalizing back offset with
  | nil => simp at h2; omega
  | cons c cs ih =>
    rw [List.length_cons] at h2
    rw [graftLeaf]
    by_cases ho : offset = g.start
    · -- Nothing that comes before the graft in the list can cover its first place.
      have hfind : (g :: gs).find? (fun g => g.start ≤ offset && offset < g.start + g.length) =
          some g := List.find?_cons_of_pos (by simp; omega)
      rw [hfind]
      simp only [if_pos ho.symm, anyDamaged_append, anyDamaged_singleton, hg, Bool.or_true,
        Bool.true_or]
    · split
      · exact ih _ _ (by omega) (by omega)
      · rw [anyDamaged_append, ih _ _ (by omega) (by omega), Bool.or_true]

mutual

theorem anyDamaged_graft {g : Graft} (gs : List Graft) (hg : g.tree.isDamaged = true)
    (hl : 0 < g.length) (offset : Nat) (h1 : offset ≤ g.start) :
    ∀ t : Tree, g.start < offset + t.text.length → anyDamaged (graft (g :: gs) offset t) = true
  | .leaf k cs, h2 => by
    rw [Tree.text_leaf] at h2
    rw [graft]
    exact anyDamaged_graftLeaf gs hg hl k cs [] offset h1 h2
  | .missing _, _ => rfl
  | .node k ts, h2 => by
    rw [Tree.text_node] at h2
    rw [graft, anyDamaged_singleton, Tree.isDamaged, anyDamaged_graftAll gs hg hl offset h1 ts h2,
      Bool.or_true]

theorem anyDamaged_graftAll {g : Graft} (gs : List Graft) (hg : g.tree.isDamaged = true)
    (hl : 0 < g.length) (offset : Nat) (h1 : offset ≤ g.start) :
    ∀ ts : List Tree, g.start < offset + (Tree.textOf ts).length →
      anyDamaged (graftAll (g :: gs) offset ts) = true
  | [], h2 => by simp at h2; omega
  | t :: ts, h2 => by
    rw [Tree.textOf_cons, List.length_append] at h2
    rw [graftAll, anyDamaged_append]
    by_cases ht : g.start < offset + t.text.length
    · rw [anyDamaged_graft gs hg hl offset h1 t ht, Bool.true_or]
    · rw [anyDamaged_graftAll gs hg hl (offset + t.text.length) (by omega) ts (by omega),
        Bool.or_true]

end

/-- A repair that begins inside the text shows in the tree. -/
theorem isDamaged_of_finish {text : Text} {s : Step} {steps : List Step} {t u : Tree}
    (hs : s.IsInside text) (ht : t.text = edited 0 text (s :: steps))
    (h : finish text (s :: steps) t = some u) : u.isDamaged = true := by
  obtain ⟨g, gs, hgs, hg, hl, hlt⟩ := grafts_cons hs steps
  have hd := anyDamaged_graft gs hg hl 0 (Nat.zero_le _) t (by rw [ht]; omega)
  rw [finish, hgs] at h
  split at h
  · next v hv =>
    rw [hv, anyDamaged_singleton] at hd
    split at h
    · cases h
      exact hd
    · cases h
  · cases h

/-! ## Attempts -/

/-- An attempt has no step yet, or begins with one inside the text. -/
def Attempt.Begins (text : Text) (a : Attempt) : Prop :=
  ∀ s steps, a.steps = s :: steps → s.IsInside text

theorem Attempt.begins_start (text : Text) : Attempt.start.Begins text := by
  intro s steps h
  cases h

theorem Attempt.Begins.append {text : Text} {a b : Attempt} {s : Step} (ha : a.Begins text)
    (hs : s.IsInside text) (hb : b.steps = a.steps ++ [s]) : b.Begins text := by
  intro s' steps h
  rw [hb] at h
  cases hsteps : a.steps with
  | nil =>
    rw [hsteps, List.nil_append] at h
    cases h
    exact hs
  | cons s'' steps' =>
    rw [hsteps, List.cons_append] at h
    cases h
    exact ha _ _ hsteps

theorem Attempt.mem_insert {a b : Attempt} {queue : List Attempt} :
    b ∈ a.insert queue ↔ b = a ∨ b ∈ queue := by
  induction queue with
  | nil => simp [Attempt.insert]
  | cons c queue ih =>
    rw [Attempt.insert]
    split
    · rw [List.mem_cons, ih, List.mem_cons]
      tauto
    · rw [List.mem_cons]

theorem Attempt.mem_foldl_insert {b : Attempt} {new queue : List Attempt} :
    b ∈ new.foldl (fun queue b => b.insert queue) queue ↔ b ∈ new ∨ b ∈ queue := by
  induction new generalizing queue with
  | nil => simp
  | cons a new ih =>
    rw [List.foldl_cons, ih, Attempt.mem_insert, List.mem_cons]
    tauto

/-- The last of some ends, or where one began if there is none. -/
theorem foldl_snd_mem {α β : Type} (b : β) (xs : List (β × α)) (h : xs ≠ []) :
    ∃ x ∈ xs, xs.foldl (fun _ x => x.1) b = x.1 := by
  cases xs using List.reverseRecOn with
  | nil => exact absurd rfl h
  | append_singleton xs x => exact ⟨x, by simp, by simp⟩

/-- A wrap of lexemes of the text, of which the first is no comment, is a step inside the text. -/
theorem isInside_wrap {text : Text} {first last : Nat} {p : Piece}
    (hp : (pieces text)[first]? = some p) (hc : p.isComment = false) (hlt : first < last)
    (f : Piece × Nat → Bool) (seam : Seam) :
    (Step.wrap (((pieces text)[first]?.map (·.start)).getD 0)
      ((((pieces text).extract first last).toList.reverse.dropWhile
        (·.isComment)).reverse.zipIdx.map fun x => (x.1.stop, f x)) seam).IsInside text := by
  have hord := ordered_pieces text
  have hp' : (pieces text).toList[first]? = some p := by rwa [Array.getElem?_toList]
  obtain ⟨hi, hpi⟩ := List.getElem?_eq_some_iff.1 hp'
  set wrapped := ((pieces text).extract first last).toList with hw
  have hmem : p ∈ wrapped := by
    rw [hw, Array.toList_extract, List.mem_iff_getElem?]
    exact ⟨0, by simp [List.getElem?_take, List.getElem?_drop, hp']; omega⟩
  have hne : (wrapped.reverse.dropWhile (·.isComment)).reverse.zipIdx ≠ [] := by
    rw [Ne, List.zipIdx_eq_nil_iff, List.reverse_eq_nil_iff, List.dropWhile_eq_nil_iff]
    intro hall
    have := hall p (List.mem_reverse.2 hmem)
    rw [hc] at this
    cases this
  rw [hp, Option.map_some, Option.getD_some]
  refine ⟨?_, ?_⟩
  · obtain ⟨x, hx, hstop⟩ := foldl_snd_mem p.start _ (mt List.map_eq_nil_iff.1 hne)
    obtain ⟨⟨q, i⟩, hq, rfl⟩ := List.mem_map.1 hx
    have hqw : q ∈ wrapped := by
      have := List.mem_reverse.1 (List.fst_mem_of_mem_zipIdx hq)
      exact List.mem_reverse.1 ((List.dropWhile_sublist _).subset this)
    rw [hw, Array.toList_extract, List.mem_iff_getElem?] at hqw
    obtain ⟨j, hj⟩ := hqw
    rw [List.getElem?_take] at hj
    split at hj
    · rw [List.getElem?_drop] at hj
      have := hord.start_lt_stop (Nat.le_add_right first j) hp' hj
      show p.start < _
      rw [Step.stop, hstop]
      exact this
    · cases hj
  · have h1 := hord.nonempty p (hpi ▸ List.getElem_mem hi)
    have h2 := hord.ends p (hpi ▸ List.getElem_mem hi)
    omega

theorem begins_of_mem_wraps {text : Text} {round : Nat} {a b : Attempt} {p : Progress}
    (ha : a.Begins text) (hb : b ∈ wraps text (pieces text) round a p) : b.Begins text := by
  simp only [wraps, List.mem_flatMap, List.mem_filter, List.mem_map, List.mem_range] at hb
  obtain ⟨first, ⟨hfirst, hmay⟩, last, hlast, rfl⟩ := hb
  have hi : first < (pieces text).size := by omega
  have hc : (pieces text)[first].isComment = false := by
    simp only [Array.getElem?_eq_getElem hi, Option.any_some, Bool.and_eq_true,
      Bool.not_eq_true'] at hmay
    exact hmay.1.2
  have hlt : first < last := by
    split at hlast
    · rcases List.mem_append.1 hlast with h | h
      · simp only [List.mem_filter, List.mem_map, List.mem_range, Bool.and_eq_true,
          decide_eq_true_eq] at h
        omega
      · rw [List.mem_singleton.1 h]
        exact hi
    · simp only [List.mem_filter, List.mem_map, List.mem_range, Bool.and_eq_true,
        decide_eq_true_eq] at hlast
      omega
  exact ha.append (isInside_wrap (Array.getElem?_eq_getElem hi) hc hlt _ _) rfl

theorem begins_of_mem_adds {text : Text} {a b : Attempt} {p : Progress} (ha : a.Begins text)
    (hb : b ∈ adds (pieces text) a p) : b.Begins text := by
  rw [adds] at hb
  split at hb
  · cases hb
  · next before hbefore =>
    have hin (f : Filler) (ends : Bool) : (Step.add before.stop f ends).IsInside text := by
      refine (ordered_pieces text).ends before ?_
      rw [← Array.getElem?_toList] at hbefore
      exact List.mem_of_getElem? hbefore
    have hadd {price rank : Nat} {f : Filler} {ends : Bool} {n skipped round first : Nat} :
        (Attempt.mk (a.price + price) rank (a.steps ++ [.add before.stop f ends]) n skipped round
          first).Begins text := ha.append (hin f ends) rfl
    simp only at hb
    split at hb
    · cases hb
    · simp only [List.mem_append, List.mem_cons, List.not_mem_nil, or_false] at hb
      rcases hb with ((rfl | hb) | rfl | rfl) | hb
      · exact hadd
      · split at hb
        · cases hb
        · rw [List.mem_singleton.1 hb]
          exact hadd
      · split <;> exact hadd
      · split <;> exact hadd
      · split at hb
        · rw [List.mem_singleton.1 hb]
          split <;> exact hadd
        · cases hb

/-! ## The search -/

theorem search_zero (text : Text) (ps : Array Piece) (queue : List Attempt) :
    search text ps 0 queue = none := rfl

theorem search_nil (text : Text) (ps : Array Piece) (fuel : Nat) :
    search text ps fuel [] = none := by
  cases fuel <;> rfl

/-- What becomes of the cheapest attempt. -/
theorem search_cons (text : Text) (ps : Array Piece) (fuel : Nat) (a : Attempt)
    (queue : List Attempt) :
    search text ps (fuel + 1) (a :: queue) =
      match (progress text ps a.steps).tree? with
      | some t =>
        match finish text a.steps t with
        | some t => some t
        | none => search text ps fuel queue
      | none =>
        if !a.steps.isEmpty && (progress text ps a.steps).failure ≤ a.settled then
          search text ps fuel queue
        else
          search text ps fuel
            ((wraps text ps fuel a (progress text ps a.steps) ++
              adds ps a (progress text ps a.steps)).foldl (fun queue b => b.insert queue)
              (if a.settled < (progress text ps a.steps).boundary then []
                else queue.filter (mayFollow a (progress text ps a.steps).failure))) := by
  delta search
  rfl

theorem parse?_of_progress {text : Text} {ps : Array Piece} {steps : List Step} {t : Tree}
    (h : (progress text ps steps).tree? = some t) :
    Tree.parse? (edited 0 text steps) = some t := by
  unfold progress at h
  simp only at h
  split at h
  · next u hu =>
    rw [hu]
    exact h
  · cases h

/-- What the search finds is damaged, because every attempt in the queue begins inside the text. -/
theorem isDamaged_of_search {text : Text} (hnone : Tree.parse? text = none) {fuel : Nat}
    {queue : List Attempt} (hq : ∀ a ∈ queue, a.Begins text) {u : Tree}
    (h : search text (pieces text) fuel queue = some u) : u.isDamaged = true := by
  induction fuel generalizing queue with
  | zero =>
    rw [search_zero] at h
    cases h
  | succ fuel ih =>
    cases queue with
    | nil =>
      rw [search_nil] at h
      cases h
    | cons a queue =>
      have ha := hq a (List.mem_cons_self ..)
      have hqueue : ∀ b ∈ queue, b.Begins text := fun b hb => hq b (List.mem_cons_of_mem _ hb)
      rw [search_cons] at h
      split at h
      · next t ht =>
        split at h
        · next v hv =>
          cases h
          have htree := parse?_of_progress ht
          cases hsteps : a.steps with
          | nil =>
            rw [hsteps, edited, hnone] at htree
            cases htree
          | cons s steps =>
            rw [hsteps] at hv htree
            exact isDamaged_of_finish (ha s steps hsteps) (Tree.text_of_parse? htree) hv
        · exact ih hqueue h
      · split at h
        · exact ih hqueue h
        · refine ih ?_ h
          intro b hb
          rcases Attempt.mem_foldl_insert.1 hb with hb | hb
          · rcases List.mem_append.1 hb with hb | hb
            · exact begins_of_mem_wraps ha hb
            · exact begins_of_mem_adds ha hb
          · split at hb
            · cases hb
            · exact hqueue b (List.mem_filter.1 hb).1

end Repair

namespace Tree

/-- The damage of a repair shows in the tree. -/
theorem isDamaged_repair {text : Text} (h : parse? text = none) :
    (repair text).isDamaged = true := by
  rw [repair]
  cases hs : Repair.search text (Repair.pieces text) Repair.searchLimit [.start] with
  | none => rfl
  | some t =>
    rw [Option.getD_some]
    refine Repair.isDamaged_of_search h ?_ hs
    intro a ha
    rw [List.mem_singleton.1 ha]
    exact Repair.Attempt.begins_start text

end Tree

end ScriptStyle
