import Mathlib.Data.List.Sort
import Outline.Proofs.Symbol.Forest

/-!
# Reordering a forest

Two forests differ by the order of siblings if the trees on the top level of one are those of the
other in some order, and the forests below each symbol differ in the same way (`Reordered`). What is
asked of the order on a level is left open: that symbols that start at the same place stay in order
(`TiesKept`), or that a level whose order changes has none (`Untied`). A level in order of start
position is determined by what starts at each place (`TiesKept.eq_of_pairwise`), so levels that keep
their ties are sorted to the same level (`TiesKept.insertionSort_eq`).
-/
namespace Outline.SymbolForest

/-! ## The order of a level -/

/-- Of two symbols, each with the forest below it, the first starts no later. -/
def NoLater (a b : Symbol × SymbolForest) : Prop := a.1.range.start.le b.1.range.start = true

instance : DecidableRel NoLater := fun a b =>
  inferInstanceAs (Decidable (a.1.range.start.le b.1.range.start = true))

instance : Std.Total NoLater where
  total a b := by
    by_cases h : NoLater a b
    · exact Or.inl h
    · exact Or.inr (Position.le_of_not_le h)

instance : IsTrans _ NoLater where
  trans _ _ _ := Position.le_trans

def startsAt (p : Position) (t : Symbol × SymbolForest) : Bool := t.1.range.start == p

/-- The symbols that start at the same place are the same on both levels, in the same order. -/
def TiesKept (a b : List (Symbol × SymbolForest)) : Prop :=
  ∀ p, a.filter (startsAt p) = b.filter (startsAt p)

/-- A level that is left in order, or that has no two symbols that start at the same place. -/
def Untied (a b : List (Symbol × SymbolForest)) : Prop :=
  a = b ∨ a.Pairwise fun x y => x.1.range.start ≠ y.1.range.start

variable {a b : List (Symbol × SymbolForest)}

theorem filter_orderedInsert (p : Position) (x : Symbol × SymbolForest)
    (l : List (Symbol × SymbolForest)) :
    (l.orderedInsert NoLater x).filter (startsAt p) = (x :: l).filter (startsAt p) := by
  induction l with
  | nil => rfl
  | cons y l ih =>
    rw [List.orderedInsert_cons]
    split
    · rfl
    · rename_i hlater
      -- what is passed over starts earlier, so not at the same place
      have hnot : ¬(startsAt p x = true ∧ startsAt p y = true) := by
        simp only [startsAt, beq_iff_eq]
        intro h
        apply hlater
        rw [NoLater, h.1, h.2]
        exact Position.le_refl p
      rw [List.filter_cons, ih]
      by_cases hx : startsAt p x = true <;> by_cases hy : startsAt p y = true <;> simp_all

theorem tiesKept_insertionSort (l : List (Symbol × SymbolForest)) :
    TiesKept l (l.insertionSort NoLater) := by
  intro p
  induction l with
  | nil => rfl
  | cons x l ih =>
    rw [List.insertionSort_cons, filter_orderedInsert, List.filter_cons, List.filter_cons, ih]

theorem TiesKept.symm (h : TiesKept a b) : TiesKept b a := fun p => (h p).symm

theorem TiesKept.trans {c : List (Symbol × SymbolForest)} (h : TiesKept a b) (h' : TiesKept b c) :
    TiesKept a c := fun p => (h p).trans (h' p)

/-- The first symbol of a sorted level starts no later than the first of one with the same ties. -/
theorem TiesKept.noLater {x y : Symbol × SymbolForest} (h : TiesKept (x :: a) (y :: b))
    (hb : (y :: b).Pairwise NoLater) : NoLater y x := by
  have hmem : x ∈ (y :: b).filter (startsAt x.1.range.start) := by
    rw [← h]
    simp [startsAt]
  rcases List.mem_cons.mp (List.mem_filter.mp hmem).1 with rfl | hx
  · exact Position.le_refl _
  · exact (List.pairwise_cons.mp hb).1 x hx

theorem TiesKept.of_cons {x : Symbol × SymbolForest} (h : TiesKept (x :: a) (x :: b)) :
    TiesKept a b := by
  intro p
  have hp := h p
  rw [List.filter_cons, List.filter_cons] at hp
  split at hp
  · exact (List.cons.inj hp).2
  · exact hp

/-- Sorted levels with the same ties are the same. -/
theorem TiesKept.eq_of_pairwise (h : TiesKept a b) (ha : a.Pairwise NoLater)
    (hb : b.Pairwise NoLater) : a = b := by
  induction a generalizing b with
  | nil =>
    cases b with
    | nil => rfl
    | cons y b => simpa [startsAt] using h y.1.range.start
  | cons x a ih =>
    cases b with
    | nil => simpa [startsAt] using h x.1.range.start
    | cons y b =>
      have hxy := Position.le_antisymm (h.symm.noLater ha) (h.noLater hb)
      obtain rfl : x = y := by
        have hfirst := h x.1.range.start
        rw [List.filter_cons_of_pos (by simp [startsAt]),
          List.filter_cons_of_pos (by simp [startsAt, hxy])] at hfirst
        exact (List.cons.inj hfirst).1
      rw [ih h.of_cons (List.pairwise_cons.mp ha).2 (List.pairwise_cons.mp hb).2]

/-- Levels with the same ties are sorted to the same level. -/
theorem TiesKept.insertionSort_eq (h : TiesKept a b) :
    a.insertionSort NoLater = b.insertionSort NoLater := by
  have hties : TiesKept (a.insertionSort NoLater) (b.insertionSort NoLater) :=
    ((tiesKept_insertionSort a).symm.trans h).trans (tiesKept_insertionSort b)
  exact hties.eq_of_pairwise (List.pairwise_insertionSort _ a) (List.pairwise_insertionSort _ b)

/-- A level with its symbols as they are and other forests below them. -/
def mapBelow (g : SymbolForest → SymbolForest) (t : Symbol × SymbolForest) :
    Symbol × SymbolForest := (t.1, g t.2)

/-- Ties are kept by what leaves symbols where they start. -/
theorem TiesKept.map {g : Symbol × SymbolForest → Symbol × SymbolForest}
    (hg : ∀ t, (g t).1.range = t.1.range) (h : TiesKept a b) : TiesKept (a.map g) (b.map g) := by
  intro p
  have hstart : startsAt p ∘ g = startsAt p := by
    funext t
    simp [startsAt, hg]
  rw [List.filter_map, List.filter_map, hstart, h p]

/-- A reordered level that has no two symbols starting at the same place keeps its ties. -/
theorem tiesKept_of_untied (hperm : a.Perm b) (h : Untied a b) : TiesKept a b := by
  rcases h with rfl | hdistinct
  · exact fun p => rfl
  · intro p
    have hp := hperm.filter (startsAt p)
    match hfilter : a.filter (startsAt p) with
    | [] => rw [hfilter] at hp; exact hp.nil_eq
    | [x] => rw [hfilter] at hp; exact (List.perm_singleton.mp hp.symm).symm
    | x :: y :: l =>
      have hpair := hdistinct.filter (startsAt p)
      have hstart : ∀ z ∈ a.filter (startsAt p), z.1.range.start = p := by
        simp [startsAt]
      rw [hfilter] at hpair hstart
      have hxy : x.1.range.start = y.1.range.start := by
        rw [hstart x (by simp), hstart y (by simp)]
      exact absurd hxy ((List.pairwise_cons.mp hpair).1 y (by simp))

/-! ## Reordered forests -/

/-- A symbol that stands in two forests, with what is below it in either. -/
structure Shared where
  symbol : Symbol
  below : SymbolForest
  below' : SymbolForest

namespace Shared

/-- The symbol as it stands in the first forest. -/
def left (t : Shared) : Symbol × SymbolForest := (t.symbol, t.below)

/-- The symbol as it stands in the second forest. -/
def right (t : Shared) : Symbol × SymbolForest := (t.symbol, t.below')

/-- The symbol put at a depth, in both forests. -/
def placed (d : Nat) (t : Shared) : Shared :=
  ⟨{ t.symbol with depth := d }, t.below.placed (d + 1), t.below'.placed (d + 1)⟩

end Shared

/-- The second forest is the first with siblings reordered on any level. What the order of a level
is must be as `order` says, which compares it with the new one. -/
inductive Reordered
    (order : List (Symbol × SymbolForest) → List (Symbol × SymbolForest) → Prop) :
    SymbolForest → SymbolForest → Prop
  | level {F G : SymbolForest} (trees : List Shared) (given : F.toList = trees.map Shared.left)
      (perm : (trees.map Shared.right).Perm G.toList)
      (kept : order (trees.map Shared.right) G.toList)
      (below : ∀ t ∈ trees, Reordered order t.below t.below') : Reordered order F G

theorem Reordered.of_untied {F G : SymbolForest} (h : F.Reordered Untied G) :
    F.Reordered TiesKept G := by
  induction h with
  | level trees given perm kept _ ih =>
    exact .level trees given perm (tiesKept_of_untied perm kept) ih

theorem toList_placed (d : Nat) (F : SymbolForest) :
    (F.placed d).toList = F.toList.map fun t => ({ t.1 with depth := d }, t.2.placed (d + 1)) := by
  induction F with
  | nil => rfl
  | cons s cs rest _ ihr => rw [placed, toList, toList, List.map_cons, ihr]

/-- Symbols are put at the same depths whatever the order of the levels. -/
theorem Reordered.placed {F G : SymbolForest} (h : F.Reordered TiesKept G) (d : Nat) :
    (F.placed d).Reordered TiesKept (G.placed d) := by
  induction h generalizing d with
  | level trees given perm kept _ ih =>
    have hright : (trees.map (Shared.placed d)).map Shared.right = (trees.map Shared.right).map
        fun t => ({ t.1 with depth := d }, t.2.placed (d + 1)) := by
      rw [List.map_map, List.map_map]
      rfl
    refine .level (trees.map (Shared.placed d)) ?_ ?_ ?_ ?_
    · rw [toList_placed, given, List.map_map, List.map_map]
      rfl
    · rw [hright, toList_placed]
      exact perm.map _
    · rw [hright, toList_placed]
      exact kept.map (by exact fun _ => rfl)
    · intro t ht
      obtain ⟨u, hu, rfl⟩ := List.mem_map.mp ht
      exact ih u hu (d + 1)

theorem toList_injective {F G : SymbolForest} (h : F.toList = G.toList) : F = G := by
  induction F generalizing G with
  | nil =>
    cases G with
    | nil => rfl
    | cons => simp [toList] at h
  | cons s cs rest _ ihr =>
    cases G with
    | nil => simp [toList] at h
    | cons s' cs' rest' =>
      simp only [toList, List.cons.injEq, Prod.mk.injEq] at h
      obtain ⟨⟨rfl, rfl⟩, hrest⟩ := h
      rw [ihr hrest]

end Outline.SymbolForest
