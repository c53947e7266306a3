import Mathlib.Data.List.Basic
import Outline.Tree.Traversal

/-!
# The rows of an outline

`walkAll` and `walkVisible` keep a stack of forests. Here they are the listings by recursion
(`preorder_eq`, `descendants_eq`, `visible_eq`), a row of the listing is the node at its path
(`mem_preorder`), no place is listed twice (`nodup_paths`), those below a node come right after it
(`exists_paths_around`), and what depends on the nodes alone and not on their places is read off
`nodes`.
-/
namespace Outline.Tree

/-! ## The stacks -/

theorem walkAll_eq (stack : List Pending) :
    walkAll stack = stack.flatMap fun p => rowsFrom p.owner p.index p.forest := by
  fun_induction walkAll stack with
  | case1 => rfl
  | case2 owner i stack ih => simp [ih, rowsFrom]
  | case3 owner i s f cs rest stack ih => simp [ih, rowsFrom]
  | case4 owner i l f rest stack ih => simp [ih, rowsFrom]

theorem walkVisible_eq (stack : List Pending) :
    walkVisible stack = stack.flatMap fun p => visibleFrom p.owner p.index p.forest := by
  fun_induction walkVisible stack with
  | case1 => rfl
  | case2 owner i stack ih => simp [ih, visibleFrom]
  | case3 owner i s f cs rest stack hh ih => simp [ih, visibleFrom, hh]
  | case4 owner i s f cs rest stack hh ih₁ ih₂ =>
    cases he : f.expanded <;> simp [ih₁, ih₂, visibleFrom, hh, he]
  | case5 owner i l f rest stack hh ih => simp [ih, visibleFrom, hh]
  | case6 owner i l f rest stack hh ih => simp [ih, visibleFrom, hh]

theorem preorder_eq (t : Tree) : t.preorder = rowsFrom [] 0 t := by
  simp [preorder, walkAll_eq]

theorem descendants_eq (t : Tree) (p : Path) :
    t.descendants p = rowsFrom p 0 (t.childrenAt p) := by
  simp [descendants, walkAll_eq]

theorem visible_eq (t : Tree) : t.visible = visibleFrom [] 0 t := by
  simp [visible, walkVisible_eq]

/-! ## Nodes without their places -/

def nodes : Tree → List Node
  | nil => []
  | symbol s f cs rest => .symbol s f :: (nodes cs ++ nodes rest)
  | leaf l f rest => .leaf l f :: nodes rest

theorem map_node_rowsFrom (owner : Path) (i : Nat) (t : Tree) :
    (rowsFrom owner i t).map (·.node) = t.nodes := by
  induction t generalizing owner i with
  | nil => rfl
  | symbol s f cs rest ihc ihr => simp [rowsFrom, nodes, ihc, ihr]
  | leaf l f rest ihr => simp [rowsFrom, nodes, ihr]

theorem map_node_preorder (t : Tree) : t.preorder.map (·.node) = t.nodes := by
  rw [preorder_eq, map_node_rowsFrom]

theorem map_node_descendants (t : Tree) (p : Path) :
    (t.descendants p).map (·.node) = (t.childrenAt p).nodes := by
  rw [descendants_eq, map_node_rowsFrom]

/-! ## Nodes at their places -/

/-- A path leads to no node, to the first one, below it, or to a later one. -/
theorem path_cases (q : Path) :
    q = [] ∨ q = [0] ∨ (∃ j r, q = 0 :: j :: r) ∨ ∃ m r, q = (m + 1) :: r := by
  rcases q with _ | ⟨_ | m, _ | ⟨j, r⟩⟩ <;> simp

@[simp] theorem node?_root (t : Tree) : t.node? [] = none := by cases t <;> rfl

@[simp] theorem node?_nil (p : Path) : node? nil p = none := by cases p <;> rfl

@[simp] theorem node?_symbol_zero (s f cs rest) (p : Path) :
    (symbol s f cs rest).node? (0 :: p) = if p = [] then some (.symbol s f) else cs.node? p := by
  cases p <;> rfl

@[simp] theorem node?_symbol_succ (s f cs rest) (i : Nat) (p : Path) :
    (symbol s f cs rest).node? ((i + 1) :: p) = rest.node? (i :: p) := rfl

@[simp] theorem node?_leaf_zero (l f rest) (p : Path) :
    (leaf l f rest).node? (0 :: p) = if p = [] then some (.leaf l f) else none := by
  cases p <;> rfl

@[simp] theorem node?_leaf_succ (l f rest) (i : Nat) (p : Path) :
    (leaf l f rest).node? ((i + 1) :: p) = rest.node? (i :: p) := rfl

@[simp] theorem childrenAt_root (t : Tree) : t.childrenAt [] = t := by cases t <;> rfl

/-- A row of siblings counted from `i` lies at or below one of them, and is the node there. -/
theorem mem_rowsFrom {owner : Path} {i : Nat} {t : Tree} {r : Row} :
    r ∈ rowsFrom owner i t ↔
      ∃ j q, r.path = owner ++ (i + j) :: q ∧ t.node? (j :: q) = some r.node := by
  induction t generalizing owner i with
  | nil => simp [rowsFrom]
  | symbol s f cs rest ihc ihr =>
    obtain ⟨p, n⟩ := r
    simp only [rowsFrom, List.mem_cons, List.mem_append, ihc, ihr, Row.mk.injEq]
    constructor
    · rintro (⟨rfl, rfl⟩ | ⟨j, q, rfl, h⟩ | ⟨j, q, rfl, h⟩)
      · exact ⟨0, [], rfl, rfl⟩
      · exact ⟨0, j :: q, by simp, by simpa using h⟩
      · exact ⟨j + 1, q, by simp; omega, by simpa using h⟩
    · rintro ⟨j, q, rfl, h⟩
      match j, q with
      | 0, [] => exact Or.inl ⟨by simp, by simpa [eq_comm] using h⟩
      | 0, k :: q => exact Or.inr (Or.inl ⟨k, q, by simp, by simpa using h⟩)
      | j + 1, q => exact Or.inr (Or.inr ⟨j, q, by simp; omega, by simpa using h⟩)
  | leaf l f rest ihr =>
    obtain ⟨p, n⟩ := r
    simp only [rowsFrom, List.mem_cons, ihr, Row.mk.injEq]
    constructor
    · rintro (⟨rfl, rfl⟩ | ⟨j, q, rfl, h⟩)
      · exact ⟨0, [], rfl, rfl⟩
      · exact ⟨j + 1, q, by simp; omega, by simpa using h⟩
    · rintro ⟨j, q, rfl, h⟩
      match j, q with
      | 0, [] => exact Or.inl ⟨by simp, by simpa [eq_comm] using h⟩
      | 0, _ :: _ => simp at h
      | j + 1, q => exact Or.inr ⟨j, q, by simp; omega, by simpa using h⟩

/-- The rows are the nodes at their paths. -/
theorem mem_preorder {t : Tree} {r : Row} : r ∈ t.preorder ↔ t.node? r.path = some r.node := by
  rw [preorder_eq, mem_rowsFrom]
  constructor
  · rintro ⟨j, q, hp, h⟩
    rwa [hp, List.nil_append, Nat.zero_add]
  · intro h
    match hp : r.path with
    | [] => simp [hp] at h
    | j :: q => exact ⟨j, q, by simp, by rwa [hp] at h⟩

/-! ## No row twice -/

theorem path_of_mem_rowsFrom {owner : Path} {i : Nat} {t : Tree} {p : Path}
    (h : p ∈ (rowsFrom owner i t).map (·.path)) : ∃ j q, p = owner ++ (i + j) :: q := by
  obtain ⟨r, hr, rfl⟩ := List.mem_map.mp h
  obtain ⟨j, q, hp, -⟩ := mem_rowsFrom.mp hr
  exact ⟨j, q, hp⟩

/-- No path is listed twice: a node is above what is below it, and what comes after it is at a later
place among its siblings. -/
theorem nodup_rowsFrom (owner : Path) (i : Nat) (t : Tree) :
    ((rowsFrom owner i t).map (·.path)).Nodup := by
  have hlater : ∀ {owner : Path} {i j : Nat} {q q' : Path},
      owner ++ i :: q ≠ owner ++ (i + 1 + j) :: q' := by
    intro owner i j q q' h
    have := (List.cons.inj (List.append_cancel_left h)).1
    omega
  induction t generalizing owner i with
  | nil => exact List.nodup_nil
  | symbol s f cs rest ihc ihr =>
    rw [rowsFrom, List.map_cons, List.map_append, List.nodup_cons, List.mem_append]
    refine ⟨?_, List.nodup_append.mpr ⟨ihc .., ihr .., ?_⟩⟩
    · rintro (h | h)
      · obtain ⟨j, q, hp⟩ := path_of_mem_rowsFrom h
        simp at hp
      · obtain ⟨j, q, hp⟩ := path_of_mem_rowsFrom h
        exact hlater hp
    · intro p hp p' hp' heq
      obtain ⟨j, q, rfl⟩ := path_of_mem_rowsFrom hp
      obtain ⟨j', q', rfl⟩ := path_of_mem_rowsFrom hp'
      rw [List.append_assoc] at heq
      exact hlater heq
  | leaf l f rest ihr =>
    rw [rowsFrom, List.map_cons, List.nodup_cons]
    refine ⟨fun h => ?_, ihr ..⟩
    obtain ⟨j, q, hp⟩ := path_of_mem_rowsFrom h
    exact hlater hp

/-- The places of all nodes, from top to bottom. -/
def paths (t : Tree) : List Path := t.preorder.map (·.path)

theorem nodup_paths (t : Tree) : t.paths.Nodup := by
  rw [paths, preorder_eq]
  exact nodup_rowsFrom [] 0 t

theorem mem_paths {t : Tree} {p : Path} : p ∈ t.paths ↔ (t.node? p).isSome = true := by
  rw [paths, List.mem_map]
  constructor
  · rintro ⟨r, hr, rfl⟩
    rw [mem_preorder.mp hr]
    rfl
  · intro h
    obtain ⟨n, hn⟩ := Option.isSome_iff_exists.mp h
    exact ⟨⟨p, n⟩, mem_preorder.mpr hn, rfl⟩

/-! ## Nodes below a node -/

theorem childrenAt_cons (t : Tree) (i : Nat) (p : Path) :
    t.childrenAt (i :: p) = (t.childrenAt [i]).childrenAt p := by
  induction t generalizing i with
  | nil => cases p <;> rfl
  | symbol s f cs rest _ ihr =>
    cases i with
    | zero => simp [childrenAt]
    | succ i => exact ihr i
  | leaf l f rest ihr =>
    cases i with
    | zero => cases p <;> rfl
    | succ i => exact ihr i

/-- What is below a node is in the outline of it alone. -/
theorem node?_append (t : Tree) (p : Path) {q : Path} (hq : q ≠ []) :
    t.node? (p ++ q) = (t.childrenAt p).node? q := by
  induction t generalizing p with
  | nil => cases p <;> simp [childrenAt]
  | symbol s f cs rest ihc ihr =>
    match p with
    | [] => simp
    | 0 :: p => simpa [hq, childrenAt] using ihc p
    | (i + 1) :: p => exact ihr (i :: p)
  | leaf l f rest ihr =>
    match p with
    | [] => simp
    | 0 :: p => simp [hq, childrenAt]
    | (i + 1) :: p => exact ihr (i :: p)

/-- Only symbols have something below them. -/
theorem node?_of_append {t : Tree} {p q : Path} {n : Node} (h : t.node? (p ++ q) = some n)
    (hp : p ≠ []) (hq : q ≠ []) : ∃ s f, t.node? p = some (.symbol s f) := by
  induction t generalizing p with
  | nil => simp at h
  | symbol s f cs rest ihc ihr =>
    match p with
    | [] => exact absurd rfl hp
    | [0] => exact ⟨s, f, rfl⟩
    | 0 :: j :: p =>
      obtain ⟨s', f', h'⟩ := ihc (p := j :: p) (by simpa using h) (by simp)
      exact ⟨s', f', by simpa using h'⟩
    | (i + 1) :: p => exact ihr (p := i :: p) h (by simp)
  | leaf l f rest ihr =>
    match p with
    | [] => exact absurd rfl hp
    | 0 :: p => simp [hq] at h
    | (i + 1) :: p => exact ihr (p := i :: p) h (by simp)

theorem mem_descendants {t : Tree} {p : Path} {r : Row} :
    r ∈ t.descendants p ↔ ∃ q, q ≠ [] ∧ r.path = p ++ q ∧ t.node? r.path = some r.node := by
  rw [descendants_eq, mem_rowsFrom]
  constructor
  · rintro ⟨j, q, hp, h⟩
    rw [Nat.zero_add] at hp
    exact ⟨j :: q, by simp, hp, by rw [hp, node?_append t p (by simp), h]⟩
  · rintro ⟨q, hq, hp, h⟩
    obtain ⟨j, q, rfl⟩ := List.exists_cons_of_ne_nil hq
    exact ⟨j, q, by rw [Nat.zero_add, hp], by rw [← node?_append t p hq, ← hp, h]⟩

theorem mem_paths_below {t : Tree} {p q : Path} :
    q ∈ (t.descendants p).map (·.path) ↔ q ∈ t.paths ∧ p <+: q ∧ p ≠ q := by
  simp only [mem_paths, List.mem_map, mem_descendants]
  constructor
  · rintro ⟨r, ⟨s, hs, hp, hn⟩, rfl⟩
    exact ⟨by rw [hn]; rfl, ⟨s, hp.symm⟩, by simpa [hp] using hs⟩
  · rintro ⟨hn, ⟨s, rfl⟩, hne⟩
    obtain ⟨n, hn⟩ := Option.isSome_iff_exists.mp hn
    exact ⟨⟨p ++ s, n⟩, ⟨s, by simpa using hne, rfl, hn⟩, rfl⟩

/-- Siblings counted from `i` are listed as those in front of a node, the node, those below it and
those behind it. -/
theorem exists_rowsFrom_around {t : Tree} {j : Nat} {q : Path} {n : Node}
    (h : t.node? (j :: q) = some n) (owner : Path) (i : Nat) :
    ∃ before after, rowsFrom owner i t = before ++ ⟨owner ++ (i + j) :: q, n⟩ ::
      (rowsFrom (owner ++ (i + j) :: q) 0 (t.childrenAt (j :: q)) ++ after) := by
  induction t generalizing owner i j q with
  | nil => simp at h
  | symbol s f cs rest ihc ihr =>
    match j, q with
    | 0, [] =>
      cases h
      exact ⟨[], rowsFrom owner (i + 1) rest, by simp [rowsFrom, childrenAt]⟩
    | 0, k :: q =>
      obtain ⟨before, after, heq⟩ := ihc (j := k) (q := q) (by simpa using h) (owner ++ [i]) 0
      refine ⟨⟨owner ++ [i], .symbol s f⟩ :: before, after ++ rowsFrom owner (i + 1) rest, ?_⟩
      rw [rowsFrom, heq]
      simp [childrenAt]
    | j + 1, q =>
      obtain ⟨before, after, heq⟩ := ihr (j := j) (q := q) h owner (i + 1)
      refine ⟨⟨owner ++ [i], .symbol s f⟩ :: (rowsFrom (owner ++ [i]) 0 cs ++ before), after, ?_⟩
      rw [rowsFrom, heq, show i + 1 + j = i + (j + 1) by omega]
      simp [childrenAt]
  | leaf l f rest ihr =>
    match j, q with
    | 0, [] =>
      cases h
      exact ⟨[], rowsFrom owner (i + 1) rest, by simp [rowsFrom, childrenAt]⟩
    | 0, k :: q => simp at h
    | j + 1, q =>
      obtain ⟨before, after, heq⟩ := ihr (j := j) (q := q) h owner (i + 1)
      refine ⟨⟨owner ++ [i], .leaf l f⟩ :: before, after, ?_⟩
      rw [rowsFrom, heq, show i + 1 + j = i + (j + 1) by omega]
      simp [childrenAt]

/-- The places of the nodes are those in front of a node, its own, those below it and those behind
it. -/
theorem exists_paths_around {t : Tree} {p : Path} (h : p ∈ t.paths) :
    ∃ before after, t.paths = before ++ p :: ((t.descendants p).map (·.path) ++ after) := by
  obtain ⟨n, hn⟩ := Option.isSome_iff_exists.mp (mem_paths.mp h)
  cases p with
  | nil => simp at hn
  | cons j q =>
    obtain ⟨before, after, heq⟩ := exists_rowsFrom_around hn [] 0
    rw [List.nil_append, Nat.zero_add] at heq
    refine ⟨before.map (·.path), after.map (·.path), ?_⟩
    rw [paths, preorder_eq, descendants_eq, heq]
    simp

end Outline.Tree
