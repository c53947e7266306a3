import Outline.Proofs.Tree.Rows
import Outline.Tree.Flags

/-!
# Changes of flags

A change of all flags undoes every change before it that it does not tell apart from none
(`mapFlags_modify` and its kin), and leaves every row where it is (`preorder_mapFlags`).
-/
namespace Outline

def Node.mapFlags (g : Flags → Flags) : Node → Node
  | symbol s f => symbol s (g f)
  | leaf l f => leaf l (g f)

@[simp] theorem Node.flags_mapFlags (g : Flags → Flags) (n : Node) :
    (n.mapFlags g).flags = g n.flags := by cases n <;> rfl

@[simp] theorem Node.symbol?_mapFlags (g : Flags → Flags) (n : Node) :
    (n.mapFlags g).symbol? = n.symbol? := by cases n <;> rfl

namespace Tree

/-! ## Changes that another one undoes -/

section

variable {g k : Flags → Flags} (h : ∀ f, g (k f) = g f)

include h

theorem mapFlags_mapFlags (t : Tree) : (t.mapFlags k).mapFlags g = t.mapFlags g := by
  induction t with
  | nil => rfl
  | symbol s f cs rest ihc ihr => simp [mapFlags, h, ihc, ihr]
  | leaf l f rest ihr => simp [mapFlags, h, ihr]

theorem mapFlags_modify (t : Tree) (p : Path) : (t.modify k p).mapFlags g = t.mapFlags g := by
  fun_induction modify k t p <;> simp_all [mapFlags]

theorem mapFlags_modifyAbove (t : Tree) (p : Path) :
    (t.modifyAbove k p).mapFlags g = t.mapFlags g := by
  fun_induction modifyAbove k t p <;> simp_all [mapFlags]

theorem mapFlags_modifyBelow (t : Tree) (p : Path) :
    (t.modifyBelow k p).mapFlags g = t.mapFlags g := by
  fun_induction modifyBelow k t p <;> simp_all [mapFlags, mapFlags_mapFlags]

end

/-! ## Rows -/

theorem rowsFrom_mapFlags (g : Flags → Flags) (t : Tree) (owner : Path) (i : Nat) :
    rowsFrom owner i (t.mapFlags g) =
      (rowsFrom owner i t).map fun r => ⟨r.path, r.node.mapFlags g⟩ := by
  induction t generalizing owner i with
  | nil => rfl
  | symbol s f cs rest ihc ihr => simp [mapFlags, rowsFrom, Node.mapFlags, ihc, ihr]
  | leaf l f rest ihr => simp [mapFlags, rowsFrom, Node.mapFlags, ihr]

theorem preorder_mapFlags (g : Flags → Flags) (t : Tree) :
    (t.mapFlags g).preorder = t.preorder.map fun r => ⟨r.path, r.node.mapFlags g⟩ := by
  rw [preorder_eq, preorder_eq, rowsFrom_mapFlags]

/-- Outlines that differ in flags have their nodes in the same places. -/
theorem paths_of_mapFlags {g : Flags → Flags} {t t' : Tree} (h : t'.mapFlags g = t.mapFlags g) :
    t'.paths = t.paths := by
  have hpaths : ∀ u : Tree, (u.mapFlags g).paths = u.paths := fun u => by
    rw [paths, preorder_mapFlags, List.map_map]
    rfl
  rw [← hpaths t', h, hpaths t]

/-- The places of the nodes with a property that a change of flags does not touch. -/
theorem map_path_filter_mapFlags {g : Flags → Flags} {P : Node → Bool}
    (hP : ∀ n : Node, P (n.mapFlags g) = P n) (t : Tree) :
    ((t.mapFlags g).preorder.filter fun r => P r.node).map (·.path) =
      (t.preorder.filter fun r => P r.node).map (·.path) := by
  rw [preorder_mapFlags, List.filter_map, List.map_map]
  simp only [Function.comp_def, hP]

end Tree

end Outline
