import Outline.Proofs.Search.Places
import Outline.Proofs.Search.Selection
import Outline.Proofs.Search.Structure

/-!
# Rows carried along

The rows last listed may be older than the outline; each change of the outline carries them to where
their nodes are now. Rows are never mixed up by that: they stay as many nodes as they were when they
were listed (`Item.Tracked`), whatever is done to the outline (`Browser.tracked_run`). A leaf that
was dropped stays in the list as it was, and is none of the leaves that a later change drops, since
only symbols are left of the list then (`Item.Bare`).
-/
namespace Outline

namespace Item

open Outline.Tree

/-- The items are as many nodes: different ones, those that are present stand in the outline, and as
soon as some leaf was dropped only symbols are present. -/
structure Tracked (t : Tree) (items : List Item) : Prop where
  nodup : items.Nodup
  here : ∀ p, .present p ∈ items → (t.plainAt? p).isSome = true
  bare : ∀ r o p, .dropped r o ∈ items → .present p ∈ items → (t.symbolAt? p).isSome = true

variable {t t' : Tree} {items : List Item}

theorem tracked_nil (t : Tree) : Tracked t [] := ⟨List.nodup_nil, nofun, nofun⟩

theorem tracked_listed (t : Tree) : Tracked t (listed t) where
  nodup := nodup_listed t
  here p hp := by
    rw [← isSome_node?]
    exact isSome_node?_of_shows (present_mem_listed.mp hp)
  bare r o p hr := by
    obtain ⟨q, hq, -⟩ := mem_listed.mp hr
    cases hq

/-- Flags do not matter. -/
theorem Tracked.of_shape (h : Tracked t items) (hs : t'.shape = t.shape) : Tracked t' items where
  nodup := h.nodup
  here p hp := by
    rw [plainAt?_of_shape hs]
    exact h.here p hp
  bare r o p hr hp := by
    rw [symbolAt?_eq, plainAt?_of_shape hs, ← symbolAt?_eq]
    exact h.bare r o p hr hp

theorem Tracked.afterInsert (h : Tracked t items) (a : Arrival) :
    Tracked (t.insertMatch a)
      (items.map (Item.afterInsert a.leaf.line.number t (t.insertMatch a))) := by
  have hung := hung_insertMatch a t
  have hpresent : ∀ p, .present p ∈ items.map
      (Item.afterInsert a.leaf.line.number t (t.insertMatch a)) →
      ∃ q, .present q ∈ items ∧ (t.insertMatch a).plainAt? p = t.plainAt? q := by
    intro p hp
    obtain ⟨i, hi, hip⟩ := List.mem_map.mp hp
    cases i with
    | dropped => cases hip
    | present q =>
      cases hip
      exact ⟨q, hi, hung q⟩
  have hdropped : ∀ r o, .dropped r o ∈ items.map
      (Item.afterInsert a.leaf.line.number t (t.insertMatch a)) → .dropped r o ∈ items := by
    intro r o hr
    obtain ⟨i, hi, hir⟩ := List.mem_map.mp hr
    cases i with
    | dropped => exact hir ▸ hi
    | present => cases hir
  refine ⟨h.nodup.map fun i j hij => ?_, fun p hp => ?_, fun r o p hr hp => ?_⟩
  · cases i <;> cases j
    · simp only [Item.afterInsert, present.injEq] at hij
      rw [pathAfterInsert_inj hij]
    · cases hij
    · cases hij
    · exact hij
  · obtain ⟨q, hq, heq⟩ := hpresent p hp
    rw [heq]
    exact h.here q hq
  · obtain ⟨q, hq, heq⟩ := hpresent p hp
    rw [symbolAt?_eq, heq, ← symbolAt?_eq]
    exact h.bare r o q (hdropped r o hr) hq

/-- The items are different ones, and only symbols of the outline are present. -/
structure Bare (t : Tree) (items : List Item) : Prop where
  nodup : items.Nodup
  symbols : ∀ p, .present p ∈ items → (t.symbolAt? p).isSome = true

theorem Bare.tracked (h : Bare t items) : Tracked t items where
  nodup := h.nodup
  here p hp := by
    have hs := h.symbols p hp
    rw [symbolAt?_eq] at hs
    exact Option.isSome_of_isSome_bind hs
  bare _ _ p _ hp := h.symbols p hp

/-- What becomes of a row when the leaves are dropped. -/
inductive Clears (t : Tree) : Item → Item → Prop
  | gone (r : Row) (o : Path) : Clears t (.dropped r o) (.dropped r o)
  | leaf {p l f} (hp : t.node? p = some (.leaf l f)) (o : Path) :
    Clears t (.present p) (.dropped ⟨p, .leaf l f⟩ o)
  | symbol {p s f} (hp : t.node? p = some (.symbol s f)) :
    Clears t (.present p) (.present (symbolPath t p))

/-- What is present afterwards is a symbol. -/
theorem Clears.of_present {i : Item} {q : Path} (h : Clears t i (.present q)) :
    ∃ p s f, i = .present p ∧ t.node? p = some (.symbol s f) ∧ q = symbolPath t p := by
  cases h with
  | symbol hp => exact ⟨_, _, _, rfl, hp, rfl⟩

theorem Tracked.clears (h : Tracked t items) {i : Item} (hi : i ∈ items) :
    Clears t i (i.afterClear t) := by
  cases i with
  | dropped r o => exact .gone r o
  | present p =>
    obtain ⟨n, hn⟩ := Option.isSome_iff_exists.mp ((isSome_node? t p).trans (h.here p hi))
    rw [Item.afterClear, hn]
    cases n with
    | symbol s f => exact .symbol hn
    | leaf l f => exact .leaf hn _

theorem Tracked.afterClear (h : Tracked t items) :
    Bare t.clearMatches (items.map (Item.afterClear t)) where
  nodup := by
    refine List.Nodup.map_on (fun i hi j hj hij => ?_) h.nodup
    have hci := h.clears hi
    have hcj := h.clears hj
    rw [hij] at hci
    -- a leaf that was dropped before is none of those that are dropped now
    have hnew : ∀ {r o p l f}, .dropped r o ∈ items → .present p ∈ items →
        t.node? p ≠ some (.leaf l f) := by
      intro r o p l f hr hp hleaf
      have hs := h.bare r o p hr hp
      simp [symbolAt?, hleaf, Node.symbol?] at hs
    generalize hk : j.afterClear t = k at hci hcj
    cases hci with
    | gone r o =>
      cases hcj with
      | gone => rfl
      | leaf hp => exact absurd hp (hnew hi hj)
    | leaf hp =>
      cases hcj with
      | gone => exact absurd hp (hnew hj hi)
      | leaf => rfl
    | symbol hp =>
      obtain ⟨q, s, f, rfl, hq, heq⟩ := hcj.of_present
      rw [eq_of_symbolPath hp hq heq]
  symbols p hp := by
    obtain ⟨i, hi, hip⟩ := List.mem_map.mp hp
    obtain ⟨q, s, f, -, hq, rfl⟩ := (hip ▸ h.clears hi).of_present
    have hs : t.symbolAt? q = some s := symbolAt?_eq_some.mpr ⟨f, hq⟩
    rw [symbolAt?_clearMatches (by rw [hs]; rfl), hs]
    rfl

/-- Among new leaves the rows are found again. -/
theorem Bare.amongLeaves (h : Bare t.clearMatches items) :
    Bare t (items.map (Item.amongLeaves t)) where
  nodup := by
    refine List.Nodup.map_on (fun i hi j hj hij => ?_) h.nodup
    cases i <;> cases j
    · simp only [Item.amongLeaves, present.injEq] at hij
      rw [← (symbolAt?_leafyPath (h.symbols _ hi)).2, hij, (symbolAt?_leafyPath (h.symbols _ hj)).2]
    · cases hij
    · cases hij
    · exact hij
  symbols p hp := by
    obtain ⟨i, hi, hip⟩ := List.mem_map.mp hp
    cases i with
    | dropped => cases hip
    | present q =>
      cases hip
      rw [(symbolAt?_leafyPath (h.symbols q hi)).1]
      exact h.symbols q hi

theorem Bare.of_shape (h : Bare t items) (hs : t'.shape = t.shape) : Bare t' items where
  nodup := h.nodup
  symbols p hp := by
    rw [symbolAt?_eq, plainAt?_of_shape hs, ← symbolAt?_eq]
    exact h.symbols p hp

end Item

namespace Browser

/-! ## Runs -/

/-- What can be done to an outline that is browsed. -/
inductive Operation
  | refresh
  | apply (raw : Text)
  | insert (arrival : Arrival)
  | clearMatches
  | hideAll
  | revealAll
  | setAllExpanded (value : Bool)
  | markResult (path : Path)
  | revealAbove (path : Path)
  | setFlags (path : Path) (change : Flags → Flags)
  | expand (path : Path)
  | collapse (path : Path)

/-- The outline and the rows last listed after one operation. -/
def perform (b : Browser) : Operation → Browser
  | .refresh => b.refresh
  | .apply raw => (b.apply raw).1
  | .insert a => (b.insert a).1
  | .clearMatches => b.clearMatches
  | .hideAll => b.adjust Tree.hideAll
  | .revealAll => b.adjust Tree.revealAll
  | .setAllExpanded v => b.adjust (Tree.setAllExpanded v)
  | .markResult p => b.adjust (·.markResult p)
  | .revealAbove p => b.adjust (·.revealAbove p)
  | .setFlags p g => b.adjust (·.modify g p)
  | .expand p => (b.expand p).1
  | .collapse p => (b.collapse p).1

/-- The outline and the rows last listed after several operations in turn. -/
def run (b : Browser) (ops : List Operation) : Browser := ops.foldl perform b

/-- The outline of a forest as it is opened, before any rows are listed. -/
def opened (d : Document) (mode : Mode) (sentinel : Text) (F : SymbolForest) (memory : Memory) :
    Browser where
  document := d
  search := Search.opened mode sentinel F memory

theorem tracked_adjust {b : Browser} (h : Item.Tracked b.tree b.items) {f : Tree → Tree}
    (hf : (f b.tree).shape = b.tree.shape) : Item.Tracked (b.adjust f).tree (b.adjust f).items :=
  h.of_shape hf

theorem tracked_apply {b : Browser} (h : Item.Tracked b.tree b.items) (raw : Text) :
    Item.Tracked (b.apply raw).1.tree (b.apply raw).1.items := by
  have hsymbols : (b.search.apply b.document raw).1.tree.symbols = b.tree.symbols :=
    (Search.kin_apply b.search b.document raw).symbols
  rw [Browser.apply]
  rcases hs : b.search.apply b.document raw with ⟨search, outcome⟩
  rw [hs] at hsymbols
  dsimp only
  have htracked : ∀ before : Tree, before.shape = b.tree.shape → Item.Tracked search.tree
      (b.items.map fun i => (i.afterClear before).amongLeaves search.tree) := by
    intro before hb
    -- dropping the leaves leaves the bare symbols, which are those of the new outline
    have hbare : search.tree.clearMatches.shape = before.clearMatches.shape := by
      rw [Tree.shape_clearMatches, Tree.shape_clearMatches, hsymbols, ← Tree.symbols_shape before,
        hb, Tree.symbols_shape]
    have hfound := ((h.of_shape hb).afterClear.of_shape hbare).amongLeaves.tracked
    rwa [List.map_map] at hfound
  split
  · exact htracked _ rfl
  · exact htracked _ (Tree.shape_mapFlags ..)

theorem tracked_perform {b : Browser} (h : Item.Tracked b.tree b.items) (op : Operation) :
    Item.Tracked (b.perform op).tree (b.perform op).items := by
  cases op with
  | refresh => exact Item.tracked_listed b.tree
  | apply raw => exact tracked_apply h raw
  | insert a => exact h.afterInsert a
  | clearMatches => exact h.afterClear.tracked
  | hideAll => exact tracked_adjust h (Tree.shape_mapFlags ..)
  | revealAll => exact tracked_adjust h (Tree.shape_mapFlags ..)
  | setAllExpanded v => exact tracked_adjust h (Tree.shape_mapFlags ..)
  | markResult p => exact tracked_adjust h (by simp [Tree.markResult, Tree.revealAbove])
  | revealAbove p => exact tracked_adjust h (Tree.shape_modifyAbove ..)
  | setFlags p g => exact tracked_adjust h (Tree.shape_modify ..)
  | expand p => exact h.of_shape (Tree.shape_expand b.tree b.items (.present p))
  | collapse p => exact h.of_shape (Tree.shape_collapse b.tree (.present p))

/-- **Rows are not mixed up.** Whatever was done to the outline of a forest since its rows were
listed, the rows in the list are as many nodes still. -/
theorem tracked_run (d : Document) (mode : Mode) (sentinel : Text) (F : SymbolForest)
    (memory : Memory) (ops : List Operation) :
    let b := (opened d mode sentinel F memory).run ops
    Item.Tracked b.tree b.items := by
  suffices hrun : ∀ b : Browser, Item.Tracked b.tree b.items →
      Item.Tracked (b.run ops).tree (b.run ops).items from hrun _ (Item.tracked_nil _)
  induction ops with
  | nil => exact fun b h => h
  | cons op ops ih => exact fun b h => ih _ (tracked_perform h op)

end Browser

end Outline
