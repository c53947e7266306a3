import Outline.Proofs.Symbol.Reordering
import Outline.Proofs.Tree.Order

/-!
# Building an outline

Putting symbols one by one into a sorted level sorts the level by insertion (`toList_sorted`), and
the levels below every symbol are sorted in the same way. So what is built is the given forest, its
symbols put at their depths, with every level reordered and ties kept (`reordered_sorted`). It is
the only such forest, and forests that differ by reordered levels without ties give the same outline
(`build_sorts_levels`).
-/
namespace Outline.Tree

open SymbolForest

variable {F G : SymbolForest}

def sorted (F : SymbolForest) : SymbolForest := (sortLevels F).symbols

theorem toList_insertByStart (s : Symbol) (cs t : Tree) :
    (insertByStart s cs t).symbols.toList =
      t.symbols.toList.orderedInsert NoLater (s, cs.symbols) := by
  induction t with
  | nil => rfl
  | symbol s' f ds rest _ ihr =>
    rw [insertByStart, symbols, toList]
    by_cases h : NoLater (s, cs.symbols) (s', ds.symbols)
    · rw [List.orderedInsert_cons_of_le _ _ h]
      unfold NoLater at h
      rw [if_pos h]
      rfl
    · rw [List.orderedInsert_of_not_le _ _ h]
      unfold NoLater at h
      rw [if_neg h, symbols, toList, ihr]
  | leaf l f rest ihr => exact ihr

theorem toList_sorted_cons (s : Symbol) (cs rest : SymbolForest) :
    (sorted (cons s cs rest)).toList = (sorted rest).toList.orderedInsert NoLater (s, sorted cs) :=
  toList_insertByStart s (sortLevels cs) (sortLevels rest)

/-- Sorting the levels of a forest sorts its top level by start position. -/
theorem toList_sorted (F : SymbolForest) :
    (sorted F).toList = (F.toList.map (mapBelow sorted)).insertionSort NoLater := by
  induction F with
  | nil => rfl
  | cons s cs rest _ ihr =>
    rw [toList_sorted_cons, ihr]
    rfl

/-- A level is reordered if all below it is. -/
theorem reordered_of_below (h : ∀ t ∈ F.toList, t.2.Reordered TiesKept (sorted t.2)) :
    F.Reordered TiesKept (sorted F) := by
  let trees : List Shared := F.toList.map fun t => ⟨t.1, t.2, sorted t.2⟩
  have hgiven : trees.map Shared.left = F.toList := by
    simp [trees, Shared.left, Function.comp_def]
  have hsorted : trees.map Shared.right = F.toList.map (mapBelow sorted) := by
    simp [trees, Shared.right, mapBelow, Function.comp_def]
  refine .level trees hgiven.symm ?_ ?_ ?_
  · rw [hsorted, toList_sorted]
    exact (List.perm_insertionSort NoLater _).symm
  · rw [hsorted, toList_sorted]
    exact tiesKept_insertionSort _
  · intro t ht
    obtain ⟨u, hu, rfl⟩ := List.mem_map.mp ht
    exact h u hu

theorem reordered_below (F : SymbolForest) :
    ∀ t ∈ F.toList, t.2.Reordered TiesKept (sorted t.2) := by
  induction F with
  | nil => simp [toList]
  | cons s cs rest ihc ihr =>
    rw [toList, List.forall_mem_cons]
    exact ⟨reordered_of_below ihc, ihr⟩

/-- A forest with its levels sorted is that forest with every level reordered and ties kept. -/
theorem reordered_sorted (F : SymbolForest) : F.Reordered TiesKept (sorted F) :=
  reordered_of_below (reordered_below F)

/-- The order of a level does not matter as far as ties are kept. -/
theorem sorted_of_reordered (h : F.Reordered TiesKept G) : sorted G = sorted F := by
  induction h with
  | level trees given perm kept _ ih =>
    apply toList_injective
    have hbelow : (trees.map Shared.right).map (mapBelow sorted) =
        (trees.map Shared.left).map (mapBelow sorted) := by
      rw [List.map_map, List.map_map]
      refine List.map_congr_left fun t ht => ?_
      simp [mapBelow, Shared.left, Shared.right, ih t ht]
    rw [toList_sorted, toList_sorted, given, ← hbelow,
      (kept.map (by exact fun _ => rfl)).insertionSort_eq]

/-- A forest with its levels in order is sorted as it is. -/
theorem sorted_eq_self (h : G.Sorted) : sorted G = G := by
  induction G with
  | nil => rfl
  | cons s cs rest ihc ihr =>
    obtain ⟨hs, hcs, hrest⟩ := h
    apply toList_injective
    rw [toList_sorted_cons, ihc hcs, ihr hrest]
    cases rest with
    | nil => rfl
    | cons s' ds rest => exact List.orderedInsert_cons_of_le _ _ (hs s' (List.mem_cons_self ..))

/-- **Building.** The outline of a forest has all flags off and no leaves. Its symbols are those of
the forest put at their depths, and nothing else about them is changed: they are the one forest that
is sorted by start position on every level and has on every level the given trees, those that start
at the same place in the given order. Forests that differ by the order of siblings have the same
outline if those that start at the same place stay in order, and so if no two siblings of a
reordered level do. -/
theorem build_sorts_levels (F : SymbolForest) :
    build F = blank {} (build F).symbols ∧
    (∀ G, G = (build F).symbols ↔ (F.placed 0).Reordered TiesKept G ∧ G.Sorted) ∧
    (∀ G, F.Reordered TiesKept G → build G = build F) ∧
    ∀ G, F.Reordered Untied G → build G = build F := by
  have hsame : ∀ G, F.Reordered TiesKept G → build G = build F := by
    intro G h
    rw [build_eq_blank F, build_eq_blank G]
    exact congrArg (blank {}) (sorted_of_reordered (h.placed 0))
  refine ⟨build_eq_blank F, fun G => ?_, hsame, fun G h => hsame G h.of_untied⟩
  constructor
  · intro h
    rw [h]
    exact ⟨reordered_sorted _, sorted_sortLevels _⟩
  · intro h
    rw [← sorted_eq_self h.2]
    exact sorted_of_reordered h.1

/-- Two symbols in either order, one of them with its two members in either order. -/
theorem build_sorts_levels_sample :
    let a : Symbol := ⟨['a'], .function, .ofCoords 0 0 4 9, none, 0⟩
    let b : Symbol := ⟨['b'], .function, .ofCoords 5 0 6 9, none, 0⟩
    let x : Symbol := ⟨['x'], .function, .ofCoords 1 4 2 9, none, 0⟩
    let y : Symbol := ⟨['y'], .function, .ofCoords 3 4 4 9, none, 0⟩
    let F := cons b .nil (single a (cons y .nil (single x .nil)))
    let G := cons a (cons x .nil (single y .nil)) (single b .nil)
    F.Reordered Untied G ∧ build G = build F := by
  intro a b x y F G
  have hnil : SymbolForest.nil.Reordered Untied .nil :=
    .level [] rfl (.refl _) (Or.inl rfl) (by simp)
  have hbelow : (cons y .nil (single x .nil)).Reordered Untied (cons x .nil (single y .nil)) :=
    .level [⟨y, .nil, .nil⟩, ⟨x, .nil, .nil⟩] rfl (.swap _ _ _) (Or.inr (by decide))
      (by simpa using hnil)
  have hF : F.Reordered Untied G :=
    .level [⟨b, .nil, .nil⟩, ⟨a, _, _⟩] rfl (.swap _ _ _) (Or.inr (by decide))
      (by simpa using ⟨hnil, hbelow⟩)
  exact ⟨hF, (build_sorts_levels F).2.2.2 G hF⟩

end Outline.Tree
