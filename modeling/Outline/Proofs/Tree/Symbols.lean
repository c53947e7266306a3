import Outline.Proofs.Symbol.Forest
import Outline.Proofs.Tree.Flags

/-!
# The symbols of an outline

No change of an outline touches its symbols: they are those it was built from, whatever flags were
set and whatever leaves were hung below them. Clearing and hiding leave nothing but the symbols
(`clearMatches_hideAll`), so what is done next depends on them alone.
-/
namespace Outline

namespace Tree

/-! ## Flags -/

@[simp] theorem symbols_mapFlags (g : Flags → Flags) (t : Tree) :
    (t.mapFlags g).symbols = t.symbols := by
  induction t with
  | nil => rfl
  | symbol s f cs rest ihc ihr => simp [mapFlags, symbols, ihc, ihr]
  | leaf l f rest ihr => simp [mapFlags, symbols, ihr]

@[simp] theorem symbols_hideAll (t : Tree) : t.hideAll.symbols = t.symbols :=
  symbols_mapFlags _ t

@[simp] theorem symbols_revealAll (t : Tree) : t.revealAll.symbols = t.symbols :=
  symbols_mapFlags _ t

@[simp] theorem symbols_setAllExpanded (v : Bool) (t : Tree) :
    (t.setAllExpanded v).symbols = t.symbols :=
  symbols_mapFlags _ t

/-- Outlines that are the same after a change of all flags have the same symbols. -/
theorem symbols_of_mapFlags {g : Flags → Flags} {t t' : Tree} (h : t'.mapFlags g = t.mapFlags g) :
    t'.symbols = t.symbols := by
  rw [← symbols_mapFlags g, h, symbols_mapFlags]

@[simp] theorem symbols_modify (g : Flags → Flags) (t : Tree) (p : Path) :
    (t.modify g p).symbols = t.symbols :=
  symbols_of_mapFlags (g := fun _ => {}) (mapFlags_modify (by exact fun _ => rfl) t p)

@[simp] theorem symbols_modifyAbove (g : Flags → Flags) (t : Tree) (p : Path) :
    (t.modifyAbove g p).symbols = t.symbols :=
  symbols_of_mapFlags (g := fun _ => {}) (mapFlags_modifyAbove (by exact fun _ => rfl) t p)

@[simp] theorem symbols_modifyBelow (g : Flags → Flags) (t : Tree) (p : Path) :
    (t.modifyBelow g p).symbols = t.symbols :=
  symbols_of_mapFlags (g := fun _ => {}) (mapFlags_modifyBelow (by exact fun _ => rfl) t p)

@[simp] theorem symbols_revealAbove (t : Tree) (p : Path) : (t.revealAbove p).symbols = t.symbols :=
  symbols_modifyAbove _ t p

@[simp] theorem symbols_markResult (t : Tree) (p : Path) :
    (t.markResult p).symbols = t.symbols := by
  simp [markResult]

@[simp] theorem symbols_fold (t : Tree) (p : Path) : (t.fold p).symbols = t.symbols := by
  simp [fold]

@[simp] theorem symbols_markWhere (p : Symbol → Bool) (t : Tree) :
    (t.markWhere p).symbols = t.symbols := by
  induction t with
  | nil => rfl
  | symbol s f cs rest ihc ihr => simp [markWhere, symbols, ihc, ihr]
  | leaf l f rest ihr => simp [markWhere, symbols, ihr]

@[simp] theorem symbols_expandTo (p : Symbol → Bool) (t : Tree) :
    (t.expandTo p).symbols = t.symbols := by
  induction t with
  | nil => rfl
  | symbol s f cs rest ihc ihr => simp [expandTo, symbols, ihc, ihr]
  | leaf l f rest ihr => simp [expandTo, symbols, ihr]

/-! ## Leaves -/

@[simp] theorem symbols_clearMatches (t : Tree) : t.clearMatches.symbols = t.symbols := by
  induction t with
  | nil => rfl
  | symbol s f cs rest ihc ihr => simp [clearMatches, symbols, ihc, ihr]
  | leaf l f rest ihr => simp [clearMatches, symbols, ihr]

/-! ## What depends on the symbols alone -/

theorem symbols_preorder (t : Tree) :
    t.symbols.preorder = t.nodes.filterMap (·.symbol?) := by
  induction t with
  | nil => rfl
  | symbol s f cs rest ihc ihr =>
    simp [symbols, nodes, SymbolForest.preorder, Node.symbol?, ihc, ihr]
  | leaf l f rest ihr => simp [symbols, nodes, Node.symbol?, ihr]

/-- The symbols of an outline are those that stand at some path. -/
theorem mem_symbols_preorder {t : Tree} {s : Symbol} :
    s ∈ t.symbols.preorder ↔ ∃ p f, t.node? p = some (.symbol s f) := by
  rw [symbols_preorder, ← map_node_preorder]
  simp only [List.mem_filterMap, List.mem_map, mem_preorder]
  constructor
  · rintro ⟨n, ⟨r, hr, rfl⟩, hs⟩
    cases hn : r.node with
    | symbol s' f =>
      rw [hn] at hr hs
      cases hs
      exact ⟨r.path, f, hr⟩
    | leaf => rw [hn] at hs; cases hs
  · rintro ⟨p, f, hp⟩
    exact ⟨.symbol s f, ⟨⟨p, .symbol s f⟩, hp, rfl⟩, rfl⟩

theorem anySymbol_eq (p : Symbol → Bool) (t : Tree) : t.anySymbol p = t.symbols.preorder.any p := by
  induction t with
  | nil => rfl
  | symbol s f cs rest ihc ihr =>
    simp [anySymbol, symbols, SymbolForest.preorder, ihc, ihr, Bool.or_assoc]
  | leaf l f rest ihr => simp [anySymbol, symbols, ihr]

/-- The outline of a forest as it stands, with the same flags everywhere. -/
def blank (f : Flags) : SymbolForest → Tree
  | .nil => nil
  | .cons s cs rest => symbol s f (blank f cs) (blank f rest)

@[simp] theorem symbols_blank (f : Flags) (F : SymbolForest) : (blank f F).symbols = F := by
  induction F with
  | nil => rfl
  | cons s cs rest ihc ihr => simp [blank, symbols, ihc, ihr]

theorem clearMatches_mapFlags {g : Flags → Flags} {k : Flags}
    (hg : ∀ f : Flags, { g f with result := false } = k) (t : Tree) :
    (t.mapFlags g).clearMatches = blank k t.symbols := by
  induction t with
  | nil => rfl
  | symbol s f cs rest ihc ihr => simp [mapFlags, clearMatches, symbols, blank, ← hg f, ihc, ihr]
  | leaf l f rest ihr => simpa [mapFlags, clearMatches, symbols] using ihr

theorem mapFlags_clearMatches {g : Flags → Flags} {k : Flags}
    (hg : ∀ f : Flags, g { f with result := false } = k) (t : Tree) :
    t.clearMatches.mapFlags g = blank k t.symbols := by
  induction t with
  | nil => rfl
  | symbol s f cs rest ihc ihr => simp [mapFlags, clearMatches, symbols, blank, ← hg f, ihc, ihr]
  | leaf l f rest ihr => simpa [clearMatches, symbols] using ihr

/-- Nothing but the symbols is left of an outline that was hidden and cleared. -/
theorem clearMatches_hideAll (t : Tree) :
    t.hideAll.clearMatches = blank { hidden := true } t.symbols :=
  clearMatches_mapFlags (g := fun f => { f with hidden := true, expanded := false })
    (fun _ => rfl) t

theorem hideAll_clearMatches (t : Tree) :
    t.clearMatches.hideAll = blank { hidden := true } t.symbols :=
  mapFlags_clearMatches (fun _ => rfl) t

theorem revealAll_clearMatches (t : Tree) : t.clearMatches.revealAll = blank {} t.symbols :=
  mapFlags_clearMatches (fun _ => rfl) t

end Tree

end Outline
