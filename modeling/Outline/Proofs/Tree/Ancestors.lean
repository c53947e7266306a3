import Outline.Proofs.Tree.Depth
import Outline.Proofs.Tree.Screen
import Outline.Proofs.Tree.Symbols

/-!
# The nodes above a node

A node is on screen if it is not hidden and every node above it is neither hidden nor folded
(`shows_iff`), so where all is folded the roots are what is on screen (`visible_of_folded`). To
unfold the way to a node, or the ways to all symbols with a property, changes the nodes above them
and no other (`node?_modifyAbove`, `node?_expandTo`), and leaves every row in its place
(`preorder_of_node?`).
-/
namespace Outline

/-- Whether the node at the first path is above the one at the second. -/
def Path.Above (p q : Path) : Prop := p <+: q ∧ p ≠ q

namespace Path

instance (p q : Path) : Decidable (p.Above q) := inferInstanceAs (Decidable (_ ∧ _))

@[simp] theorem not_above_nil (p : Path) : ¬p.Above [] := fun h =>
  h.2 (List.prefix_nil.mp h.1)

@[simp] theorem nil_above {q : Path} : Above [] q ↔ q ≠ [] := by
  simp [Above, eq_comm]

@[simp] theorem cons_above_cons {i j : Nat} {p q : Path} :
    Above (i :: p) (j :: q) ↔ i = j ∧ p.Above q := by
  simp only [Above, List.cons_prefix_cons, ne_eq, List.cons.injEq, not_and]
  constructor
  · rintro ⟨⟨rfl, hpre⟩, hne⟩
    exact ⟨rfl, hpre, hne rfl⟩
  · rintro ⟨rfl, hpre, hne⟩
    exact ⟨⟨rfl, hpre⟩, fun _ => hne⟩

end Path

namespace Tree

variable {t u : Tree} {p q : Path}

/-! ## On screen -/

/-- Every node above a path is unfolded and not hidden. -/
def OpenAbove (t : Tree) (p : Path) : Prop :=
  ∀ q n, q.Above p → t.node? q = some n → n.flags.hidden = false ∧ n.flags.expanded = true

/-- Nothing is above a root. -/
theorem openAbove_root (t : Tree) (i : Nat) : t.OpenAbove [i] := by
  intro q n hq hn
  cases q with
  | nil => simp at hn
  | cons j q => simp at hq

/-- The first of several siblings is above none of the others. -/
theorem openAbove_succ (h : ∀ k q, t.node? ((k + 1) :: q) = u.node? (k :: q)) {i : Nat} :
    t.OpenAbove ((i + 1) :: p) ↔ u.OpenAbove (i :: p) := by
  constructor
  · intro ho q n hq hn
    cases q with
    | nil => simp at hn
    | cons k q => exact ho ((k + 1) :: q) n (by simpa using hq) (by rw [h, hn])
  · intro ho q n hq hn
    rcases q with _ | ⟨_ | k, q⟩
    · simp at hn
    · simp at hq
    · exact ho (k :: q) n (by simpa using hq) (by rw [← h, hn])

theorem openAbove_below (s : Symbol) (f : Flags) (cs rest : Tree) (hp : p ≠ []) :
    (symbol s f cs rest).OpenAbove (0 :: p) ↔
      (f.hidden = false ∧ f.expanded = true) ∧ cs.OpenAbove p := by
  constructor
  · intro ho
    refine ⟨ho [0] (.symbol s f) (by simpa using hp) (by simp), fun q n hq hn => ?_⟩
    refine ho (0 :: q) n (by simpa using hq) ?_
    rw [node?_symbol_zero, if_neg (by rintro rfl; simp at hn), hn]
  · rintro ⟨hf, ho⟩ q n hq hn
    obtain rfl | rfl | ⟨k, q, rfl⟩ | ⟨k, q, rfl⟩ := path_cases q
    · simp at hn
    · obtain rfl : .symbol s f = n := by simpa using hn
      exact hf
    · exact ho (k :: q) n (Path.cons_above_cons.mp hq).2 (by simpa using hn)
    · simp at hq

/-- A node is on screen if it is not hidden and all nodes above it are unfolded and not hidden. -/
theorem shows_iff : t.shows p = true ↔
    ∃ n, t.node? p = some n ∧ n.flags.hidden = false ∧ t.OpenAbove p := by
  induction t generalizing p with
  | nil => simp
  | symbol s f cs rest ihc ihr =>
    obtain rfl | rfl | ⟨j, p, rfl⟩ | ⟨i, p, rfl⟩ := path_cases p
    · simp
    · simp [openAbove_root, Node.flags]
    · simp only [openAbove_below s f cs rest (List.cons_ne_nil j p), shows_symbol_zero,
        node?_symbol_zero, if_neg (List.cons_ne_nil j p), List.isEmpty_cons, Bool.false_or,
        Bool.and_eq_true, Bool.not_eq_true', ihc]
      constructor
      · rintro ⟨hh, he, n, hn, hshown, ho⟩
        exact ⟨n, hn, hshown, ⟨hh, he⟩, ho⟩
      · rintro ⟨n, hn, hshown, ⟨hh, he⟩, ho⟩
        exact ⟨hh, he, n, hn, hshown, ho⟩
    · rw [shows_symbol_succ, ihr, openAbove_succ (node?_symbol_succ s f cs rest),
        node?_symbol_succ]
  | leaf l f rest ihr =>
    obtain rfl | rfl | ⟨j, p, rfl⟩ | ⟨i, p, rfl⟩ := path_cases p
    · simp
    · simp [openAbove_root, Node.flags]
    · simp
    · rw [shows_leaf_succ, ihr, openAbove_succ (node?_leaf_succ l f rest), node?_leaf_succ]

/-- Where nothing is hidden and everything folded, the roots are on screen. -/
theorem visible_of_folded (ht : t.Deep 0)
    (h : ∀ r ∈ t.preorder, r.node.flags.hidden = false ∧ r.node.flags.expanded = false) :
    t.visible = t.preorder.filter (·.depth == 0) := by
  rw [visible_eq_filter]
  refine List.filter_congr fun r hr => ?_
  have hn := mem_preorder.mp hr
  have hdepth : r.depth + 1 = 0 + r.path.length := depth_of_node? ht hn
  rw [Bool.eq_iff_iff, shows_iff]
  rcases hp : r.path with _ | ⟨i, _ | ⟨j, p⟩⟩
  · simp [hp] at hn
  · rw [hp] at hn
    refine iff_of_true ⟨_, hn, (h r hr).1, openAbove_root t i⟩ ?_
    simpa [hp] using hdepth
  · rw [hp] at hn hdepth
    refine iff_of_false ?_ (by simp at hdepth ⊢; omega)
    rintro ⟨-, -, -, ho⟩
    -- the root above the row is folded
    obtain ⟨s, f, hroot⟩ := node?_of_append (p := [i]) (q := j :: p) hn (by simp) (by simp)
    have hopen := ho [i] _ (by simp) hroot
    have hfolded := h ⟨[i], .symbol s f⟩ (mem_preorder.mpr hroot)
    rw [hfolded.2] at hopen
    exact Bool.false_ne_true hopen.2

/-! ## Nodes after a change -/

theorem node?_mapFlags (g : Flags → Flags) (t : Tree) (p : Path) :
    (t.mapFlags g).node? p = (t.node? p).map (Node.mapFlags g) := by
  induction t generalizing p with
  | nil => simp [mapFlags]
  | symbol s f cs rest ihc ihr =>
    obtain rfl | rfl | ⟨j, p, rfl⟩ | ⟨i, p, rfl⟩ := path_cases p
    · simp
    · rfl
    · simpa [mapFlags] using ihc (j :: p)
    · exact ihr (i :: p)
  | leaf l f rest ihr =>
    obtain rfl | rfl | ⟨j, p, rfl⟩ | ⟨i, p, rfl⟩ := path_cases p
    · simp
    · rfl
    · simp [mapFlags]
    · exact ihr (i :: p)

/-- One node is changed, and no other. -/
theorem node?_modify (g : Flags → Flags) (t : Tree) (p q : Path) :
    (t.modify g p).node? q = (t.node? q).map fun n => if q = p then n.mapFlags g else n := by
  induction t generalizing p q with
  | nil => cases p <;> simp [modify]
  | symbol s f cs rest ihc ihr =>
    obtain rfl | rfl | ⟨j, p, rfl⟩ | ⟨i, p, rfl⟩ := path_cases p
    · rcases q with _ | ⟨k, q⟩ <;> simp [modify]
    · obtain rfl | rfl | ⟨k, q, rfl⟩ | ⟨k, q, rfl⟩ := path_cases q <;> simp [modify, Node.mapFlags]
    · obtain rfl | rfl | ⟨k, q, rfl⟩ | ⟨k, q, rfl⟩ := path_cases q
      · simp
      · simp [modify]
      · simpa [modify] using ihc (j :: p) (k :: q)
      · simp [modify]
    · rcases q with _ | ⟨_ | k, q⟩
      · simp
      · simp [modify]
      · simpa [modify] using ihr (i :: p) (k :: q)
  | leaf l f rest ihr =>
    obtain rfl | rfl | ⟨j, p, rfl⟩ | ⟨i, p, rfl⟩ := path_cases p
    · rcases q with _ | ⟨k, q⟩ <;> simp [modify]
    · obtain rfl | rfl | ⟨k, q, rfl⟩ | ⟨k, q, rfl⟩ := path_cases q <;> simp [modify, Node.mapFlags]
    · obtain rfl | rfl | ⟨k, q, rfl⟩ | ⟨k, q, rfl⟩ := path_cases q <;> simp [modify]
    · rcases q with _ | ⟨_ | k, q⟩
      · simp
      · simp [modify]
      · simpa [modify] using ihr (i :: p) (k :: q)

/-- A change that leaves the flags of the node as they are is none. -/
theorem modify_eq_self {g : Flags → Flags} {n : Node} (hn : t.node? p = some n)
    (hg : g n.flags = n.flags) : t.modify g p = t := by
  induction t generalizing p with
  | nil => simp at hn
  | symbol s f cs rest ihc ihr =>
    obtain rfl | rfl | ⟨j, p, rfl⟩ | ⟨i, p, rfl⟩ := path_cases p
    · simp at hn
    · obtain rfl : .symbol s f = n := by simpa using hn
      simpa [modify, Node.flags] using hg
    · simpa [modify] using ihc (p := j :: p) (by simpa using hn)
    · simpa [modify] using ihr (p := i :: p) hn
  | leaf l f rest ihr =>
    obtain rfl | rfl | ⟨j, p, rfl⟩ | ⟨i, p, rfl⟩ := path_cases p
    · simp at hn
    · obtain rfl : .leaf l f = n := by simpa using hn
      simpa [modify, Node.flags] using hg
    · simp at hn
    · simpa [modify] using ihr (p := i :: p) hn

/-- The nodes above a node are changed, and no other. -/
theorem node?_modifyAbove (g : Flags → Flags) (hp : (t.node? p).isSome = true) :
    (t.modifyAbove g p).node? q =
      (t.node? q).map fun n => if q.Above p then n.mapFlags g else n := by
  induction t generalizing p q with
  | nil => simp at hp
  | symbol s f cs rest ihc ihr =>
    obtain rfl | rfl | ⟨j, p, rfl⟩ | ⟨i, p, rfl⟩ := path_cases p
    · simp at hp
    · rcases q with _ | ⟨_ | k, q⟩ <;> simp [modifyAbove]
    · obtain rfl | rfl | ⟨k, q, rfl⟩ | ⟨k, q, rfl⟩ := path_cases q
      · simp
      · simp [modifyAbove, Node.mapFlags]
      · simpa [modifyAbove] using ihc (p := j :: p) (q := k :: q) (by simpa using hp)
      · simp [modifyAbove]
    · rcases q with _ | ⟨_ | k, q⟩
      · simp
      · simp [modifyAbove]
      · simpa [modifyAbove] using ihr (p := i :: p) (q := k :: q) hp
  | leaf l f rest ihr =>
    obtain rfl | rfl | ⟨j, p, rfl⟩ | ⟨i, p, rfl⟩ := path_cases p
    · simp at hp
    · rcases q with _ | ⟨_ | k, q⟩ <;> simp [modifyAbove]
    · simp at hp
    · rcases q with _ | ⟨_ | k, q⟩
      · simp
      · simp [modifyAbove]
      · simpa [modifyAbove] using ihr (p := i :: p) (q := k :: q) hp

/-- The nodes above symbols with the property are unfolded, and no other node is changed. -/
theorem node?_expandTo (P : Symbol → Bool) (t : Tree) (p : Path) :
    (t.expandTo P).node? p = (t.node? p).map fun n =>
      if (t.childrenAt p).anySymbol P then n.mapFlags ({ · with expanded := true }) else n := by
  induction t generalizing p with
  | nil => simp [expandTo]
  | symbol s f cs rest ihc ihr =>
    obtain rfl | rfl | ⟨j, p, rfl⟩ | ⟨i, p, rfl⟩ := path_cases p
    · simp
    · rw [expandTo, node?_symbol_zero, node?_symbol_zero, if_pos rfl, if_pos rfl, childrenAt,
        childrenAt_root]
      split <;> rfl
    · rw [expandTo, node?_symbol_zero, node?_symbol_zero, if_neg (List.cons_ne_nil j p),
        if_neg (List.cons_ne_nil j p)]
      exact ihc (j :: p)
    · exact ihr (i :: p)
  | leaf l f rest ihr =>
    obtain rfl | rfl | ⟨j, p, rfl⟩ | ⟨i, p, rfl⟩ := path_cases p
    · simp
    · rfl
    · simp [expandTo]
    · exact ihr (i :: p)

/-! ## Rows after a change -/

/-- The rows are the nodes at the places of the outline. -/
theorem preorder_eq_filterMap (t : Tree) :
    t.preorder = t.paths.filterMap fun p => (t.node? p).map (⟨p, ·⟩) := by
  have hrow : t.preorder.filterMap (fun r => (t.node? r.path).map (⟨r.path, ·⟩ : Node → Row)) =
      t.preorder.filterMap some := by
    refine List.filterMap_congr fun r hr => ?_
    rw [mem_preorder.mp hr]
    rfl
  rw [paths, List.filterMap_map]
  exact (List.filterMap_some.symm.trans hrow.symm)

/-- Nodes that are changed in their places are rows that are changed in their places. -/
theorem preorder_of_node? {f : Path → Node → Node} (hpaths : u.paths = t.paths)
    (h : ∀ p, u.node? p = (t.node? p).map (f p)) :
    u.preorder = t.preorder.map fun r => ⟨r.path, f r.path r.node⟩ := by
  rw [preorder_eq_filterMap u, preorder_eq_filterMap t, hpaths, List.map_filterMap]
  refine List.filterMap_congr fun p _ => ?_
  rw [h, Option.map_map, Option.map_map]
  rfl

/-- The rows above a row are unfolded. -/
theorem preorder_expandAbove (hp : (t.node? p).isSome = true) :
    (t.expandAbove p).preorder = t.preorder.map fun r =>
      ⟨r.path, if r.path.Above p then r.node.mapFlags ({ · with expanded := true }) else r.node⟩ :=
  preorder_of_node?
    (paths_of_mapFlags (mapFlags_modifyAbove (g := ({ · with expanded := false }))
      (by exact fun _ => rfl) t p))
    fun _ => node?_modifyAbove _ hp

end Tree

end Outline
