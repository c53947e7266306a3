import Outline.Proofs.Symbol.Forest
import Outline.Proofs.Tree.Depth
import Outline.Proofs.Tree.Flags

/-!
# The order of an outline

The roots of an outline are symbols, every level of symbols is in order of start position, every
level with its leaves is in order of lines, and every node is as deep as it stands (`InOrder`). This
is a matter of the nodes and not of their flags (`InOrder.of_shape`); it holds of a forest sorted by
start (`inOrder_blank`), so of an outline as it is built (`inOrder_build`), and a hit keeps it,
because a leaf is put in front of the first sibling on a later line, one deeper than the symbol it
is below (`ordered_addLeaf`, `deep_insertMatch`, `inOrder_insertMatch`).
-/
namespace Outline

def Node.plain : Node → Node
  | symbol s _ => .symbol s {}
  | leaf l _ => .leaf l {}

theorem Node.line_plain (n : Node) : n.plain.line = n.line := by cases n <;> rfl

theorem Node.symbol?_plain (n : Node) : n.plain.symbol? = n.symbol? := by cases n <;> rfl

namespace Tree

/-! ## Levels -/

def siblings : Tree → List Node
  | nil => []
  | symbol s f _ rest => .symbol s f :: rest.siblings
  | leaf l f rest => .leaf l f :: rest.siblings

/-- Every level, leaves included, is in order of lines. -/
def Ordered : Tree → Prop
  | nil => True
  | symbol s _ cs rest => (∀ n ∈ rest.siblings, s.startLine ≤ n.line) ∧ cs.Ordered ∧ rest.Ordered
  | leaf l _ rest => (∀ n ∈ rest.siblings, l.line.number ≤ n.line) ∧ rest.Ordered

/-- The roots are symbols, every level is in order, and every node is as deep as it stands. -/
structure InOrder (t : Tree) : Prop where
  roots : ∀ n ∈ t.siblings, n.symbol?.isSome = true
  starts : t.symbols.Sorted
  lines : t.Ordered
  depths : t.Deep 0

theorem filterMap_symbol?_siblings (t : Tree) :
    t.siblings.filterMap (·.symbol?) = t.symbols.roots := by
  induction t with
  | nil => rfl
  | symbol s f cs rest _ ihr =>
    show s :: rest.siblings.filterMap (·.symbol?) = s :: rest.symbols.roots
    rw [ihr]
  | leaf l f rest ihr => exact ihr

theorem Ordered.pairwise {t : Tree} (h : t.Ordered) :
    t.siblings.Pairwise fun a b => a.line ≤ b.line := by
  induction t with
  | nil => exact .nil
  | symbol s f cs rest _ ihr =>
    obtain ⟨hs, -, hrest⟩ := h
    exact .cons hs (ihr hrest)
  | leaf l f rest ihr =>
    obtain ⟨hl, hrest⟩ := h
    exact .cons hl (ihr hrest)

theorem ordered_childrenAt {t : Tree} (h : t.Ordered) (p : Path) : (t.childrenAt p).Ordered := by
  induction t generalizing p with
  | nil => cases p <;> trivial
  | symbol s f cs rest ihc ihr =>
    obtain ⟨hs, hcs, hrest⟩ := h
    match p with
    | [] => exact ⟨hs, hcs, hrest⟩
    | 0 :: p => exact ihc hcs p
    | (i + 1) :: p => exact ihr hrest (i :: p)
  | leaf l f rest ihr =>
    obtain ⟨hl, hrest⟩ := h
    match p with
    | [] => exact ⟨hl, hrest⟩
    | 0 :: p => trivial
    | (i + 1) :: p => exact ihr hrest (i :: p)

theorem sorted_childrenAt {t : Tree} (h : t.symbols.Sorted) (p : Path) :
    (t.childrenAt p).symbols.Sorted := by
  induction t generalizing p with
  | nil => cases p <;> trivial
  | symbol s f cs rest ihc ihr =>
    match p with
    | [] => exact h
    | 0 :: p => exact ihc h.2.1 p
    | (i + 1) :: p => exact ihr h.2.2 (i :: p)
  | leaf l f rest ihr =>
    match p with
    | [] => exact h
    | 0 :: p => trivial
    | (i + 1) :: p => exact ihr h (i :: p)

/-! ## Flags do not matter -/

def shape (t : Tree) : Tree := t.mapFlags fun _ => {}

@[simp] theorem shape_nil : shape nil = nil := rfl

@[simp] theorem shape_symbol (s f cs rest) :
    shape (symbol s f cs rest) = symbol s {} cs.shape rest.shape := rfl

@[simp] theorem shape_leaf (l f rest) : shape (leaf l f rest) = leaf l {} rest.shape := rfl

@[simp] theorem shape_mapFlags (g : Flags → Flags) (t : Tree) : (t.mapFlags g).shape = t.shape :=
  mapFlags_mapFlags (by exact fun _ => rfl) t

@[simp] theorem shape_modify (g : Flags → Flags) (t : Tree) (p : Path) :
    (t.modify g p).shape = t.shape := mapFlags_modify (by exact fun _ => rfl) t p

@[simp] theorem shape_modifyAbove (g : Flags → Flags) (t : Tree) (p : Path) :
    (t.modifyAbove g p).shape = t.shape := mapFlags_modifyAbove (by exact fun _ => rfl) t p

@[simp] theorem shape_modifyBelow (g : Flags → Flags) (t : Tree) (p : Path) :
    (t.modifyBelow g p).shape = t.shape := mapFlags_modifyBelow (by exact fun _ => rfl) t p

@[simp] theorem shape_markWhere (p : Symbol → Bool) (t : Tree) :
    (t.markWhere p).shape = t.shape := by
  induction t with
  | nil => rfl
  | symbol s f cs rest ihc ihr => simp [markWhere, ihc, ihr]
  | leaf l f rest ihr => simp [markWhere, ihr]

theorem shape_clearMatches (t : Tree) : t.clearMatches.shape = blank {} t.symbols :=
  mapFlags_clearMatches (fun _ => rfl) t

@[simp] theorem shape_blank (f : Flags) (F : SymbolForest) : (blank f F).shape = blank {} F := by
  induction F with
  | nil => rfl
  | cons s cs rest ihc ihr => simp [blank, ihc, ihr]

theorem siblings_shape (t : Tree) : t.shape.siblings = t.siblings.map Node.plain := by
  induction t with
  | nil => rfl
  | symbol s f cs rest _ ihr => simp [siblings, Node.plain, ihr]
  | leaf l f rest ihr => simp [siblings, Node.plain, ihr]

/-- What holds of all siblings whatever their flags are holds of them with all flags off. -/
theorem forall_siblings_shape {P : Node → Prop} (hP : ∀ n, P n.plain ↔ P n) (t : Tree) :
    (∀ n ∈ t.shape.siblings, P n) ↔ ∀ n ∈ t.siblings, P n := by
  simp only [siblings_shape, List.forall_mem_map, hP]

theorem ordered_shape (t : Tree) : t.shape.Ordered ↔ t.Ordered := by
  induction t with
  | nil => rfl
  | symbol s f cs rest ihc ihr =>
    rw [shape_symbol, Ordered, Ordered, ihc, ihr,
      forall_siblings_shape (fun n => by rw [n.line_plain])]
  | leaf l f rest ihr =>
    rw [shape_leaf, Ordered, Ordered, ihr, forall_siblings_shape (fun n => by rw [n.line_plain])]

theorem deep_shape {d : Nat} {t : Tree} : t.shape.Deep d ↔ t.Deep d := deep_mapFlags _

theorem symbols_shape (t : Tree) : t.shape.symbols = t.symbols := symbols_mapFlags _ t

/-- Whether an outline is in order is a matter of its nodes and not of their flags. -/
theorem InOrder.of_shape {t t' : Tree} (h : t.InOrder) (hs : t'.shape = t.shape) : t'.InOrder where
  roots := by
    rw [← forall_siblings_shape (fun n => by rw [n.symbol?_plain]), hs,
      forall_siblings_shape (fun n => by rw [n.symbol?_plain])]
    exact h.roots
  starts := by
    rw [← symbols_shape, hs, symbols_shape]
    exact h.starts
  lines := by
    rw [← ordered_shape, hs, ordered_shape]
    exact h.lines
  depths := by
    rw [← deep_shape, hs, deep_shape]
    exact h.depths

/-! ## Outlines without leaves -/

theorem mem_siblings_blank {f : Flags} {F : SymbolForest} {n : Node}
    (h : n ∈ (blank f F).siblings) : ∃ s ∈ F.roots, n = .symbol s f := by
  induction F with
  | nil => cases h
  | cons s cs rest _ ihr =>
    obtain rfl | h := List.mem_cons.mp h
    · exact ⟨s, List.mem_cons_self .., rfl⟩
    · obtain ⟨s', hs', rfl⟩ := ihr h
      exact ⟨s', List.mem_cons_of_mem _ hs', rfl⟩

theorem ordered_blank (f : Flags) {F : SymbolForest} (h : F.Sorted) : (blank f F).Ordered := by
  induction F with
  | nil => trivial
  | cons s cs rest ihc ihr =>
    obtain ⟨hs, hcs, hrest⟩ := h
    refine ⟨fun n hn => ?_, ihc hcs, ihr hrest⟩
    obtain ⟨s', hs', rfl⟩ := mem_siblings_blank hn
    have hle := Position.le_iff.mp (hs s' hs')
    show s.range.start.line ≤ s'.range.start.line
    omega

theorem inOrder_blank (f : Flags) {F : SymbolForest} (h : F.Sorted) (hd : F.Deep 0) :
    (blank f F).InOrder where
  roots n hn := by
    obtain ⟨s, -, rfl⟩ := mem_siblings_blank hn
    rfl
  starts := by rwa [symbols_blank]
  lines := ordered_blank f h
  depths := (deep_blank f).mpr hd

/-- What is left of an outline without its leaves, whatever the flags. -/
theorem InOrder.bare {t : Tree} (h : t.InOrder) (f : Flags) : (blank f t.symbols).InOrder :=
  inOrder_blank f h.starts h.depths.symbols

theorem inOrder_clearMatches {t : Tree} (h : t.InOrder) : t.clearMatches.InOrder :=
  (h.bare {}).of_shape (by rw [shape_clearMatches, shape_blank])

/-! ## Building -/

theorem roots_insertByStart {s x : Symbol} {cs t : Tree}
    (h : x ∈ (insertByStart s cs t).symbols.roots) : x = s ∨ x ∈ t.symbols.roots := by
  induction t with
  | nil => exact Or.inl (List.mem_singleton.mp h)
  | symbol s' f ds rest _ ihr =>
    rw [insertByStart] at h
    split at h
    · exact List.mem_cons.mp h
    · obtain rfl | h := List.mem_cons.mp h
      · exact Or.inr (List.mem_cons_self ..)
      · exact (ihr h).imp_right (List.mem_cons_of_mem _)
  | leaf l f rest ihr => exact ihr h

theorem sorted_insertByStart (s : Symbol) {cs t : Tree} (hcs : cs.symbols.Sorted)
    (ht : t.symbols.Sorted) : (insertByStart s cs t).symbols.Sorted := by
  induction t with
  | nil => exact ⟨nofun, hcs, trivial⟩
  | symbol s' f ds rest _ ihr =>
    obtain ⟨hs', hds, hrest⟩ := ht
    rw [insertByStart]
    split
    · rename_i hle
      refine ⟨fun x hx => ?_, hcs, hs', hds, hrest⟩
      obtain rfl | hx := List.mem_cons.mp hx
      · exact hle
      · exact Position.le_trans hle (hs' x hx)
    · rename_i hle
      refine ⟨fun x hx => ?_, hds, ihr hrest⟩
      obtain rfl | hx := roots_insertByStart hx
      · exact Position.le_of_not_le hle
      · exact hs' x hx
  | leaf l f rest ihr => exact ihr ht

theorem sorted_sortLevels (F : SymbolForest) : (sortLevels F).symbols.Sorted := by
  induction F with
  | nil => trivial
  | cons s cs rest ihc ihr => exact sorted_insertByStart s ihc ihr

theorem insertByStart_blank (s : Symbol) (F G : SymbolForest) :
    insertByStart s (blank {} F) (blank {} G) =
      blank {} (insertByStart s (blank {} F) (blank {} G)).symbols := by
  induction G with
  | nil => simp [blank, insertByStart, symbols]
  | cons s' cs rest _ ihr =>
    rw [blank, insertByStart]
    split
    · simp [blank, symbols]
    · rw [symbols, blank, ← ihr, symbols_blank]

theorem sortLevels_eq_blank (F : SymbolForest) :
    sortLevels F = blank {} (sortLevels F).symbols := by
  induction F with
  | nil => rfl
  | cons s cs rest ihc ihr =>
    rw [sortLevels, ihc, ihr]
    exact insertByStart_blank s _ _

/-- An outline as it is built has no leaves and all flags off. -/
theorem build_eq_blank (F : SymbolForest) : build F = blank {} (build F).symbols :=
  sortLevels_eq_blank _

theorem inOrder_build (F : SymbolForest) : (build F).InOrder := by
  rw [build_eq_blank]
  exact inOrder_blank {} (sorted_sortLevels _) (deep_build F).symbols

/-! ## Hits -/

theorem mem_siblings_addLeaf {l : HungLeaf} {t : Tree} {n : Node} (h : n ∈ (t.addLeaf l).siblings) :
    n = .leaf l .leaf ∨ n ∈ t.siblings := by
  induction t with
  | nil => exact List.mem_cons.mp h
  | symbol s f cs rest _ ihr =>
    rw [addLeaf] at h
    split at h
    · exact List.mem_cons.mp h
    · obtain rfl | h := List.mem_cons.mp h
      · exact Or.inr (List.mem_cons_self ..)
      · exact (ihr h).imp_right (List.mem_cons_of_mem _)
  | leaf l' f rest ihr =>
    rw [addLeaf] at h
    split at h
    · exact List.mem_cons.mp h
    · obtain rfl | h := List.mem_cons.mp h
      · exact Or.inr (List.mem_cons_self ..)
      · exact (ihr h).imp_right (List.mem_cons_of_mem _)

/-- A leaf is put where its line belongs. -/
theorem ordered_addLeaf (l : HungLeaf) {t : Tree} (h : t.Ordered) : (t.addLeaf l).Ordered := by
  induction t with
  | nil => exact ⟨nofun, trivial⟩
  | symbol s f cs rest _ ihr =>
    obtain ⟨hs, hcs, hrest⟩ := h
    rw [addLeaf]
    split
    · rename_i hlt
      refine ⟨fun n hn => ?_, hs, hcs, hrest⟩
      obtain rfl | hn := List.mem_cons.mp hn
      · exact Nat.le_of_lt hlt
      · exact Nat.le_trans (Nat.le_of_lt hlt) (hs n hn)
    · rename_i hle
      refine ⟨fun n hn => ?_, hcs, ihr hrest⟩
      obtain rfl | hn := mem_siblings_addLeaf hn
      · exact Nat.le_of_not_lt hle
      · exact hs n hn
  | leaf l' f rest ihr =>
    obtain ⟨hl, hrest⟩ := h
    rw [addLeaf]
    split
    · rename_i hlt
      refine ⟨fun n hn => ?_, hl, hrest⟩
      obtain rfl | hn := List.mem_cons.mp hn
      · exact Nat.le_of_lt hlt
      · exact Nat.le_trans (Nat.le_of_lt hlt) (hl n hn)
    · rename_i hle
      refine ⟨fun n hn => ?_, ihr hrest⟩
      obtain rfl | hn := mem_siblings_addLeaf hn
      · exact Nat.le_of_not_lt hle
      · exact hl n hn

/-- A hit adds no node to the level where it is taken: what it adds is below. -/
theorem Inserts.siblings_eq {a : Arrival} {t t' : Tree} (h : Inserts a t t') :
    t'.siblings.map Node.plain = t.siblings.map Node.plain := by
  induction h with
  | start | deeper | within => rfl
  | next _ _ _ _ ih => simp only [siblings, List.map_cons, ih]
  | pass _ ih => simp only [siblings, List.map_cons, ih]

/-- What holds of siblings whatever their flags are holds of them after a hit. -/
theorem forall_siblings_of_map_plain {P : Node → Prop} (hP : ∀ n, P n.plain ↔ P n) {t t' : Tree}
    (h : t'.siblings.map Node.plain = t.siblings.map Node.plain) (ht : ∀ n ∈ t.siblings, P n) :
    ∀ n ∈ t'.siblings, P n := by
  rw [← forall_siblings_shape hP, siblings_shape] at ht ⊢
  rwa [h]

theorem Inserts.ordered {a : Arrival} {t t' : Tree} (h : Inserts a t t') (ht : t.Ordered) :
    t'.Ordered := by
  induction h with
  | start => exact ht
  | deeper _ _ ih => exact ⟨ht.1, ih ht.2.1, ht.2.2⟩
  | within => exact ⟨ht.1, ordered_addLeaf _ ht.2.1, ht.2.2⟩
  | next _ _ _ h ih =>
    refine ⟨?_, ht.2.1, ih ht.2.2⟩
    exact forall_siblings_of_map_plain (fun n => by rw [n.line_plain]) h.siblings_eq ht.1
  | pass h ih =>
    refine ⟨?_, ih ht.2⟩
    exact forall_siblings_of_map_plain (fun n => by rw [n.line_plain]) h.siblings_eq ht.1

theorem siblings_insertMatch (a : Arrival) (t : Tree) :
    (t.insertMatch a).siblings.map Node.plain = t.siblings.map Node.plain := by
  induction t with
  | nil => rfl
  | symbol s f cs rest _ ihr =>
    obtain ⟨-, h⟩ | ⟨g, ds, -, h⟩ := insertMatch_symbol a s f cs rest
    · rw [h, siblings, List.map_cons, ihr]
      rfl
    · rw [h, siblings, List.map_cons, ihr]
      rfl
  | leaf l f rest ihr =>
    rw [insertMatch, siblings, List.map_cons, ihr]
    rfl

theorem ordered_insertMatch (a : Arrival) {t : Tree} (ht : t.Ordered) :
    (t.insertMatch a).Ordered := by
  induction t with
  | nil => trivial
  | symbol s f cs rest _ ihr =>
    obtain ⟨hs, hcs, hrest⟩ := ht
    have hlater := forall_siblings_of_map_plain (P := fun n => s.startLine ≤ n.line)
      (fun n => by rw [n.line_plain]) (siblings_insertMatch a rest) hs
    obtain ⟨-, h⟩ | ⟨g, ds, hi, h⟩ := insertMatch_symbol a s f cs rest
    · rw [h]
      exact ⟨hlater, hcs, ihr hrest⟩
    · have hone : (symbol s f cs nil).Ordered := ⟨nofun, hcs, trivial⟩
      rw [h]
      exact ⟨hlater, ((inserts_of_insertFirst hi).ordered hone).2.1, ihr hrest⟩
  | leaf l f rest ihr =>
    obtain ⟨hl, hrest⟩ := ht
    exact ⟨forall_siblings_of_map_plain (fun n => by rw [n.line_plain])
      (siblings_insertMatch a rest) hl, ihr hrest⟩

theorem inOrder_insertMatch (a : Arrival) {t : Tree} (ht : t.InOrder) :
    (t.insertMatch a).InOrder where
  roots := forall_siblings_of_map_plain (fun n => by rw [n.symbol?_plain])
    (siblings_insertMatch a t) ht.roots
  starts := by
    rw [symbols_insertMatch]
    exact ht.starts
  lines := ordered_insertMatch a ht.lines
  depths := deep_insertMatch a ht.depths

/-! ## Depth -/

theorem mem_siblings_of_node? {t : Tree} {i : Nat} {n : Node} (h : t.node? [i] = some n) :
    n ∈ t.siblings := by
  induction t generalizing i with
  | nil => cases h
  | symbol s f cs rest _ ihr =>
    cases i with
    | zero =>
      cases h
      exact List.mem_cons_self ..
    | succ i => exact List.mem_cons_of_mem _ (ihr h)
  | leaf l f rest ihr =>
    cases i with
    | zero =>
      cases h
      exact List.mem_cons_self ..
    | succ i => exact List.mem_cons_of_mem _ (ihr h)

/-- A node is a root, or a symbol stands above it on a depth one less. -/
theorem root_or_above {t : Tree} (ht : t.Deep 0) {r : Row} (hr : r ∈ t.preorder) :
    (r.path.length = 1 ∧ r.depth = 0 ∧ r.node ∈ t.siblings) ∨
      ∃ up ∈ t.preorder, r.path.dropLast = up.path ∧ up.node.symbol?.isSome = true ∧
        r.depth = up.depth + 1 := by
  rw [mem_preorder] at hr
  have hdepth : r.depth + 1 = 0 + r.path.length := depth_of_node? ht hr
  rcases List.eq_nil_or_concat r.path with h | ⟨q, i, h⟩
  · rw [h] at hr
    simp at hr
  · rw [List.concat_eq_append] at h
    rw [h] at hr hdepth
    simp only [List.length_append, List.length_singleton] at hdepth
    by_cases hq : q = []
    · subst hq
      left
      exact ⟨by rw [h]; rfl, by simpa using hdepth, mem_siblings_of_node? hr⟩
    · right
      obtain ⟨s, f, hs⟩ := node?_of_append hr hq (by simp)
      have hup : (Node.symbol s f).depth + 1 = 0 + q.length := depth_of_node? ht hs
      refine ⟨⟨q, .symbol s f⟩, mem_preorder.mpr hs, ?_, rfl, ?_⟩
      · rw [h, List.dropLast_concat]
      · show r.depth = (Node.symbol s f).depth + 1
        omega

end Tree

end Outline
