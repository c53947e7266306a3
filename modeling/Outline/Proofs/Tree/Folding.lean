import Outline.Proofs.Tree.Flags
import Outline.Proofs.Tree.Trim
import Outline.Search.Navigation

/-!
# Folding

Folding and unfolding change what is unfolded and nothing else: with every node folded, or every
node unfolded, an outline is what it was before (`setAllExpanded_expand`, `setAllExpanded_collapse`
and their kin). An outline is laid out if all that is not hidden is on screen (`visible_of_laid`).
A trim outline is (`laid_of_trim`), and stays so when it is unfolded (`Laid.unfolded`).
-/
namespace Outline

namespace Tree

/-! ## What folding leaves alone -/

/-- Everything unfolded or everything folded, an outline is the same whatever was unfolded before.
-/
theorem setAllExpanded_setAllExpanded (v w : Bool) (t : Tree) :
    (t.setAllExpanded w).setAllExpanded v = t.setAllExpanded v :=
  mapFlags_mapFlags (by exact fun _ => rfl) t

theorem setAllExpanded_unfold (v : Bool) (t : Tree) (p : Path) :
    (t.modify ({ · with expanded := true }) p).setAllExpanded v = t.setAllExpanded v :=
  mapFlags_modify (by exact fun _ => rfl) t p

theorem setAllExpanded_expandAbove (v : Bool) (t : Tree) (p : Path) :
    (t.expandAbove p).setAllExpanded v = t.setAllExpanded v :=
  mapFlags_modifyAbove (by exact fun _ => rfl) t p

theorem setAllExpanded_fold (v : Bool) (t : Tree) (p : Path) :
    (t.fold p).setAllExpanded v = t.setAllExpanded v :=
  (mapFlags_modifyBelow (by exact fun _ => rfl) _ p).trans
    (mapFlags_modify (by exact fun _ => rfl) t p)

theorem setAllExpanded_expandTo (v : Bool) (p : Symbol → Bool) (t : Tree) :
    (t.expandTo p).setAllExpanded v = t.setAllExpanded v := by
  unfold setAllExpanded
  induction t with
  | nil => rfl
  | symbol s f cs rest ihc ihr =>
    simp only [expandTo, mapFlags, ihc, ihr]
    split <;> rfl
  | leaf l f rest ihr => simp only [expandTo, mapFlags, ihr]

theorem setAllExpanded_expand (v : Bool) (t : Tree) (items : List Item) (i : Item) :
    (Navigation.expand t items i).1.setAllExpanded v = t.setAllExpanded v := by
  cases i with
  | present p =>
    rw [Navigation.expand]
    split <;> exact setAllExpanded_unfold v t p
  | dropped => rfl

theorem setAllExpanded_collapse (v : Bool) (t : Tree) (i : Item) :
    (Navigation.collapse t i).1.setAllExpanded v = t.setAllExpanded v := by
  match i with
  | .dropped _ owner => exact setAllExpanded_fold v t owner
  | .present [] => exact setAllExpanded_fold v t []
  | .present [n] => exact setAllExpanded_fold v t [n]
  | .present (n :: m :: p) => exact setAllExpanded_fold v t (n :: m :: p).dropLast

/-! ## Outlines laid out -/

/-- Whether every node is hidden. -/
def allHidden (t : Tree) : Bool := t.nodes.all (·.flags.hidden)

@[simp] theorem allHidden_nil : allHidden nil = true := rfl

@[simp] theorem allHidden_symbol (s f cs rest) :
    allHidden (symbol s f cs rest) = (f.hidden && (cs.allHidden && rest.allHidden)) := by
  simp [allHidden, nodes, Node.flags]

@[simp] theorem allHidden_leaf (l f rest) :
    allHidden (leaf l f rest) = (f.hidden && rest.allHidden) := by
  simp [allHidden, nodes, Node.flags]

/-- Below every symbol that is hidden or folded everything is hidden. -/
def Laid : Tree → Prop
  | nil => True
  | symbol _ f cs rest =>
    ((f.hidden = false ∧ f.expanded = true) ∨ cs.allHidden = true) ∧ cs.Laid ∧ rest.Laid
  | leaf _ _ rest => rest.Laid

theorem filter_rowsFrom_of_allHidden {t : Tree} (h : t.allHidden = true) (owner : Path) (i : Nat) :
    ((rowsFrom owner i t).filter fun r => !r.node.flags.hidden) = [] := by
  rw [List.filter_eq_nil_iff]
  intro r hr
  have hn : r.node ∈ t.nodes := by
    rw [← map_node_rowsFrom owner i t]
    exact List.mem_map_of_mem hr
  simpa using List.all_eq_true.mp h r.node hn

theorem visibleFrom_of_laid {t : Tree} (h : t.Laid) (owner : Path) (i : Nat) :
    visibleFrom owner i t = (rowsFrom owner i t).filter fun r => !r.node.flags.hidden := by
  induction t generalizing owner i with
  | nil => rfl
  | symbol s f cs rest ihc ihr =>
    obtain ⟨hcs, hc, hr⟩ := h
    rw [visibleFrom, rowsFrom, List.filter_cons, List.filter_append, ← ihr hr]
    rcases hcs with ⟨hh, he⟩ | hall
    · rw [← ihc hc]
      simp [Node.flags, hh, he]
    · -- nothing is left of what is below, whether the symbol is unfolded or not
      have hnone : (if f.expanded then visibleFrom (owner ++ [i]) 0 cs else []) = [] := by
        split
        · rw [ihc hc, filter_rowsFrom_of_allHidden hall]
        · rfl
      rw [filter_rowsFrom_of_allHidden hall, hnone]
      cases hh : f.hidden <;> simp [Node.flags, hh]
  | leaf l f rest ihr =>
    rw [visibleFrom, rowsFrom, List.filter_cons, ← ihr h]
    cases hh : f.hidden <;> simp [Node.flags, hh]

/-- An outline that is laid out lists every node that is not hidden. -/
theorem visible_of_laid {t : Tree} (h : t.Laid) :
    t.visible = t.preorder.filter fun r => !r.node.flags.hidden := by
  rw [visible_eq, preorder_eq]
  exact visibleFrom_of_laid h [] 0

theorem allHidden_of_trim {t : Tree} (h : t.Trim) (hr : t.hasResult = false) :
    t.allHidden = true := by
  induction t with
  | nil => rfl
  | symbol s f cs rest ihc ihr =>
    obtain ⟨hh, -, hc, hrest⟩ := h
    simp only [hasResult_symbol, Bool.or_eq_false_iff] at hr
    simp [hh, hr.1, hr.2.1, ihc hc hr.2.1, ihr hrest hr.2.2]
  | leaf l f rest _ =>
    rw [h.1] at hr
    simp [Flags.leaf] at hr

/-- The results and what is above them are not hidden, and what is above them is unfolded. -/
theorem laid_of_trim {t : Tree} (h : t.Trim) : t.Laid := by
  induction t with
  | nil => trivial
  | symbol s f cs rest ihc ihr =>
    obtain ⟨hh, he, hc, hr⟩ := h
    refine ⟨?_, ihc hc, ihr hr⟩
    cases hres : cs.hasResult with
    | true => exact Or.inl ⟨by simp [hh, hres], by rw [he, hres]⟩
    | false => exact Or.inr (allHidden_of_trim hc hres)
  | leaf l f rest ihr => exact ihr h.2

theorem allHidden_setAllExpanded (v : Bool) (t : Tree) :
    (t.setAllExpanded v).allHidden = t.allHidden := by
  unfold setAllExpanded
  induction t with
  | nil => rfl
  | symbol s f cs rest ihc ihr => simp [mapFlags, ihc, ihr]
  | leaf l f rest ihr => simp [mapFlags, ihr]

/-- Unfolding brings nothing on screen that was hidden. -/
theorem Laid.unfolded {t : Tree} (h : t.Laid) : (t.setAllExpanded true).Laid := by
  induction t with
  | nil => trivial
  | symbol s f cs rest ihc ihr =>
    obtain ⟨hcs, hc, hr⟩ := h
    refine ⟨?_, ihc hc, ihr hr⟩
    rcases hcs with ⟨hh, -⟩ | hall
    · exact Or.inl ⟨hh, rfl⟩
    · exact Or.inr ((allHidden_setAllExpanded true cs).trans hall)
  | leaf l f rest ihr => exact ihr h

/-- Symbols of which none is hidden are all on screen when they are unfolded. -/
theorem laid_unfolded_blank (F : SymbolForest) : ((blank {} F).setAllExpanded true).Laid := by
  induction F with
  | nil => trivial
  | cons s cs rest ihc ihr => exact ⟨Or.inl ⟨rfl, rfl⟩, ihc, ihr⟩

theorem nodes_blank (f : Flags) (F : SymbolForest) :
    (blank f F).nodes = F.preorder.map (.symbol · f) := by
  induction F with
  | nil => rfl
  | cons s cs rest ihc ihr => simp [blank, nodes, SymbolForest.preorder, ihc, ihr]

theorem node_of_mem_preorder_blank {f : Flags} {F : SymbolForest} {r : Row}
    (h : r ∈ (blank f F).preorder) : ∃ s, r.node = .symbol s f := by
  have hn : r.node ∈ (blank f F).nodes := by
    rw [← map_node_preorder]
    exact List.mem_map_of_mem h
  rw [nodes_blank] at hn
  obtain ⟨s, -, hs⟩ := List.mem_map.mp hn
  exact ⟨s, hs.symm⟩

end Tree

namespace Item

/-- The items of the rows that are not hidden, whether they are on screen or folded away. -/
def unhidden (t : Tree) : List Item :=
  (t.preorder.filter fun r => !r.node.flags.hidden).map (.present ·.path)

/-- The items of all symbols. -/
def symbols (t : Tree) : List Item := t.symbolRows.map (.present ·.path)

theorem listed_of_laid {t : Tree} (h : t.Laid) : listed t = unhidden t := by
  rw [listed, Tree.visible_of_laid h, unhidden]

theorem unhidden_setAllExpanded (v : Bool) (t : Tree) :
    unhidden (t.setAllExpanded v) = unhidden t := by
  have h := Tree.map_path_filter_mapFlags (g := ({ · with expanded := v }))
    (P := fun n => !n.flags.hidden) (fun n => by rw [Node.flags_mapFlags]) t
  have hitems := congrArg (List.map Item.present) h
  rw [List.map_map, List.map_map] at hitems
  exact hitems

theorem symbols_setAllExpanded (v : Bool) (t : Tree) :
    symbols (t.setAllExpanded v) = symbols t := by
  have h := Tree.map_path_filter_mapFlags (g := ({ · with expanded := v }))
    (P := fun n => n.symbol?.isSome) (fun n => by rw [Node.symbol?_mapFlags]) t
  have hitems := congrArg (List.map Item.present) h
  rw [List.map_map, List.map_map] at hitems
  exact hitems

theorem unhidden_blank (F : SymbolForest) :
    unhidden (Tree.blank {} F) = symbols (Tree.blank {} F) := by
  rw [unhidden, symbols, Tree.symbolRows]
  refine congrArg (List.map _) (List.filter_congr fun r hr => ?_)
  obtain ⟨s, hs⟩ := Tree.node_of_mem_preorder_blank hr
  rw [hs]
  rfl

theorem unhidden_blank_hidden (F : SymbolForest) :
    unhidden (Tree.blank { hidden := true } F) = [] := by
  rw [unhidden, List.map_eq_nil_iff, List.filter_eq_nil_iff]
  intro r hr
  obtain ⟨s, hs⟩ := Tree.node_of_mem_preorder_blank hr
  simp [hs, Node.flags]

end Item

end Outline
