import Outline.Proofs.Tree.Insert

/-!
# The depth of a node

The depth of a node is kept with the node, and every node of an outline is as deep as it stands
(`Deep`): the roots are put at depth 0 when the outline is built (`deep_build`), and a leaf one
deeper than the symbol it is hung below (`deep_insertMatch`). The flags have no part in it
(`deep_mapFlags`), and where every node is as deep as it stands, its depth is that of its path
(`depth_of_node?`).
-/
namespace Outline

namespace SymbolForest

/-- Every symbol is as deep as it stands, the roots at the given depth. -/
def Deep : Nat → SymbolForest → Prop
  | _, nil => True
  | d, cons s cs rest => s.depth = d ∧ cs.Deep (d + 1) ∧ rest.Deep d

theorem deep_placed (d : Nat) (F : SymbolForest) : (F.placed d).Deep d := by
  induction F generalizing d with
  | nil => trivial
  | cons s cs rest ihc ihr => exact ⟨rfl, ihc (d + 1), ihr d⟩

end SymbolForest

namespace Tree

/-- Every node is as deep as it stands, the roots at the given depth. -/
def Deep : Nat → Tree → Prop
  | _, nil => True
  | d, symbol s _ cs rest => s.depth = d ∧ cs.Deep (d + 1) ∧ rest.Deep d
  | d, leaf l _ rest => l.depth = d ∧ rest.Deep d

variable {d : Nat} {t t' : Tree}

theorem deep_mapFlags (g : Flags → Flags) : (t.mapFlags g).Deep d ↔ t.Deep d := by
  induction t generalizing d with
  | nil => rfl
  | symbol s f cs rest ihc ihr => rw [mapFlags, Deep, Deep, ihc, ihr]
  | leaf l f rest ihr => rw [mapFlags, Deep, Deep, ihr]

theorem Deep.symbols (h : t.Deep d) : t.symbols.Deep d := by
  induction t generalizing d with
  | nil => trivial
  | symbol s f cs rest ihc ihr => exact ⟨h.1, ihc h.2.1, ihr h.2.2⟩
  | leaf l f rest ihr => exact ihr h.2

theorem deep_blank (f : Flags) {F : SymbolForest} : (blank f F).Deep d ↔ F.Deep d := by
  induction F generalizing d with
  | nil => rfl
  | cons s cs rest ihc ihr => rw [blank, Deep, SymbolForest.Deep, ihc, ihr]

/-- A node at a path is as deep as the path is long, counted from the depth of the roots. -/
theorem depth_of_node? {p : Path} {n : Node} (h : t.Deep d) (hn : t.node? p = some n) :
    n.depth + 1 = d + p.length := by
  induction t generalizing d p with
  | nil => simp at hn
  | symbol s f cs rest ihc ihr =>
    obtain ⟨hs, hcs, hrest⟩ := h
    obtain rfl | rfl | ⟨j, p, rfl⟩ | ⟨i, p, rfl⟩ := path_cases p
    · simp at hn
    · obtain rfl : .symbol s f = n := by simpa using hn
      exact congrArg (· + 1) hs
    · have hbelow := ihc hcs (p := j :: p) (by simpa using hn)
      simp only [List.length_cons] at hbelow ⊢
      omega
    · exact ihr hrest (p := i :: p) hn
  | leaf l f rest ihr =>
    obtain ⟨hl, hrest⟩ := h
    obtain rfl | rfl | ⟨j, p, rfl⟩ | ⟨i, p, rfl⟩ := path_cases p
    · simp at hn
    · obtain rfl : .leaf l f = n := by simpa using hn
      exact congrArg (· + 1) hl
    · simp at hn
    · exact ihr hrest (p := i :: p) hn

/-! ## Building -/

theorem deep_insertByStart {s : Symbol} {cs : Tree} (hs : s.depth = d) (hcs : cs.Deep (d + 1))
    (ht : t.Deep d) : (insertByStart s cs t).Deep d := by
  induction t with
  | nil => exact ⟨hs, hcs, trivial⟩
  | symbol s' f ds rest _ ihr =>
    rw [insertByStart]
    split
    · exact ⟨hs, hcs, ht⟩
    · exact ⟨ht.1, ht.2.1, ihr ht.2.2⟩
  | leaf l f rest ihr => exact ⟨ht.1, ihr ht.2⟩

theorem deep_sortLevels {F : SymbolForest} (h : F.Deep d) : (sortLevels F).Deep d := by
  induction F generalizing d with
  | nil => trivial
  | cons s cs rest ihc ihr => exact deep_insertByStart h.1 (ihc h.2.1) (ihr h.2.2)

theorem deep_build (F : SymbolForest) : (build F).Deep 0 :=
  deep_sortLevels (F.deep_placed 0)

/-! ## Hits -/

theorem deep_addLeaf {l : HungLeaf} (hl : l.depth = d) (ht : t.Deep d) : (t.addLeaf l).Deep d := by
  induction t with
  | nil => exact ⟨hl, trivial⟩
  | symbol s f cs rest _ ihr =>
    rw [addLeaf]
    split
    · exact ⟨hl, ht⟩
    · exact ⟨ht.1, ht.2.1, ihr ht.2.2⟩
  | leaf l' f rest ihr =>
    rw [addLeaf]
    split
    · exact ⟨hl, ht⟩
    · exact ⟨ht.1, ihr ht.2⟩

/-- A leaf is hung one deeper than the symbol that it is hung below. -/
theorem Inserts.deep {a : Arrival} (h : Inserts a t t') (ht : t.Deep d) : t'.Deep d := by
  induction h generalizing d with
  | start => exact ht
  | deeper _ _ ih => exact ⟨ht.1, ih ht.2.1, ht.2.2⟩
  | within => exact ⟨ht.1, deep_addLeaf (congrArg (· + 1) ht.1) ht.2.1, ht.2.2⟩
  | next _ _ _ _ ih => exact ⟨ht.1, ht.2.1, ih ht.2.2⟩
  | pass _ ih => exact ⟨ht.1, ih ht.2⟩

theorem deep_insertMatch (a : Arrival) (ht : t.Deep d) : (t.insertMatch a).Deep d := by
  induction t with
  | nil => trivial
  | symbol s f cs rest _ ihr =>
    obtain ⟨hs, hcs, hrest⟩ := ht
    obtain ⟨-, h⟩ | ⟨g, ds, hi, h⟩ := insertMatch_symbol a s f cs rest
    · rw [h]
      exact ⟨hs, hcs, ihr hrest⟩
    · have hone : (symbol s f cs nil).Deep d := ⟨hs, hcs, trivial⟩
      rw [h]
      exact ⟨hs, ((inserts_of_insertFirst hi).deep hone).2.1, ihr hrest⟩
  | leaf l f rest ihr => exact ⟨ht.1, ihr ht.2⟩

end Tree

end Outline
