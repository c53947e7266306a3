import Outline.Proofs.Tree.Choice
import Outline.Proofs.Tree.Order
import Outline.Search.Browser

/-!
# Where nodes go

A change of the outline moves its nodes. Behind a new leaf a node is one place further, and no two
nodes go to the same place (`hung_insertMatch`, `pathAfterInsert_inj`). Without leaves a symbol has
its place among the symbols (`symbolAt?_clearMatches`), and among new leaves it is found again
(`symbolAt?_leafyPath`). The flags do not matter for this, so nodes are compared with all flags off
(`plainAt?`).
-/
namespace Outline

namespace Tree

/-! ## Nodes apart from their flags -/

def plainAt? (t : Tree) (p : Path) : Option Node := (t.node? p).map Node.plain

@[simp] theorem plainAt?_root (t : Tree) : t.plainAt? [] = none := by simp [plainAt?]

@[simp] theorem plainAt?_nil (p : Path) : nil.plainAt? p = none := by simp [plainAt?]

@[simp] theorem plainAt?_symbol_zero (s f cs rest) (p : Path) :
    (symbol s f cs rest).plainAt? (0 :: p) =
      if p = [] then some (.symbol s {}) else cs.plainAt? p := by
  by_cases hp : p = [] <;> simp [plainAt?, hp, Node.plain]

@[simp] theorem plainAt?_symbol_succ (s f cs rest) (i : Nat) (p : Path) :
    (symbol s f cs rest).plainAt? ((i + 1) :: p) = rest.plainAt? (i :: p) := rfl

@[simp] theorem plainAt?_leaf_zero (l f rest) (p : Path) :
    (leaf l f rest).plainAt? (0 :: p) = if p = [] then some (.leaf l {}) else none := by
  by_cases hp : p = [] <;> simp [plainAt?, hp, Node.plain]

@[simp] theorem plainAt?_leaf_succ (l f rest) (i : Nat) (p : Path) :
    (leaf l f rest).plainAt? ((i + 1) :: p) = rest.plainAt? (i :: p) := rfl

theorem plainAt?_shape (t : Tree) (p : Path) : t.shape.plainAt? p = t.plainAt? p := by
  induction t generalizing p with
  | nil => rfl
  | symbol s f cs rest ihc ihr => rcases p with _ | ⟨_ | i, q⟩ <;> simp [ihc, ihr]
  | leaf l f rest ihr => rcases p with _ | ⟨_ | i, q⟩ <;> simp [ihr]

theorem plainAt?_of_shape {t t' : Tree} (h : t'.shape = t.shape) (p : Path) :
    t'.plainAt? p = t.plainAt? p := by
  rw [← plainAt?_shape t', h, plainAt?_shape]

theorem isSome_node? (t : Tree) (p : Path) : (t.node? p).isSome = (t.plainAt? p).isSome := by
  rw [plainAt?, Option.isSome_map]

theorem symbolAt?_eq (t : Tree) (p : Path) : t.symbolAt? p = (t.plainAt? p).bind (·.symbol?) := by
  rw [symbolAt?, plainAt?, Option.bind_map]
  congr 1
  funext n
  exact n.symbol?_plain.symm

/-! ## Behind a new leaf -/

section

open Item

variable {line : Nat} {t t' : Tree}

theorem pathAfterInsert_of_length (h : t'.length = t.length) (i : Nat) (p : Path) :
    pathAfterInsert line t t' (i :: p) =
      i :: pathAfterInsert line (t.childrenAt [i]) (t'.childrenAt [i]) p := by
  have hno : ¬(t'.length = t.length + 1 ∧ upTo line t ≤ i) := by omega
  simp [pathAfterInsert, hno]

@[simp] theorem pathAfterInsert_self (t : Tree) (p : Path) : pathAfterInsert line t t p = p := by
  induction p generalizing t with
  | nil => rfl
  | cons i p ih => rw [pathAfterInsert_of_length rfl, ih]

/-- Different nodes go to different places. -/
theorem pathAfterInsert_inj {p q : Path}
    (h : pathAfterInsert line t t' p = pathAfterInsert line t t' q) : p = q := by
  induction p generalizing q t t' with
  | nil =>
    cases q with
    | nil => rfl
    | cons j q => cases h
  | cons i p ih =>
    cases q with
    | nil => cases h
    | cons j q =>
      simp only [pathAfterInsert, List.cons.injEq] at h
      obtain rfl : i = j := by
        have hhead := h.1
        split at hhead <;> split at hhead <;> omega
      rw [ih h.2]

/-- The nodes of the first outline are those of the second at the places where a hit on the line
moved them. -/
def Hung (line : Nat) (t t' : Tree) : Prop :=
  ∀ p, t'.plainAt? (pathAfterInsert line t t' p) = t.plainAt? p

theorem Hung.refl (t : Tree) : Hung line t t := fun p => by rw [pathAfterInsert_self]

theorem hung_symbol {s f g cs cs' rest rest'} (hc : Hung line cs cs') (hr : Hung line rest rest')
    (hlen : rest'.length = rest.length) :
    Hung line (symbol s f cs rest) (symbol s g cs' rest') := by
  intro p
  have hlen' : (symbol s g cs' rest').length = (symbol s f cs rest).length :=
    congrArg (· + 1) hlen
  rcases p with _ | ⟨_ | i, q⟩
  · rfl
  · rw [pathAfterInsert_of_length hlen']
    cases q with
    | nil => rfl
    | cons j q =>
      have hne : pathAfterInsert line cs cs' (j :: q) ≠ [] := List.cons_ne_nil _ _
      simpa [childrenAt, hne] using hc (j :: q)
  · rw [pathAfterInsert_of_length hlen']
    have hnext := hr (i :: q)
    rwa [pathAfterInsert_of_length hlen] at hnext

theorem hung_leaf {l f rest rest'} (hr : Hung line rest rest')
    (hlen : rest'.length = rest.length) : Hung line (leaf l f rest) (leaf l f rest') := by
  intro p
  have hlen' : (leaf l f rest').length = (leaf l f rest).length :=
    congrArg (· + 1) hlen
  rcases p with _ | ⟨_ | i, q⟩
  · rfl
  · rw [pathAfterInsert_of_length hlen']
    cases q with
    | nil => rfl
    | cons j q => simp [pathAfterInsert]
  · rw [pathAfterInsert_of_length hlen']
    have hnext := hr (i :: q)
    rwa [pathAfterInsert_of_length hlen] at hnext

theorem Hung.below {s f g cs cs'} (h : Hung line (symbol s f cs nil) (symbol s g cs' nil)) :
    Hung line cs cs' := by
  intro p
  cases p with
  | nil => simp [pathAfterInsert]
  | cons j q =>
    have hne : pathAfterInsert line cs cs' (j :: q) ≠ [] := List.cons_ne_nil _ _
    have hbelow := h (0 :: j :: q)
    rw [pathAfterInsert_of_length (Eq.refl 1)] at hbelow
    simpa [childrenAt, hne] using hbelow

theorem length_addLeaf (l : HungLeaf) (t : Tree) : (t.addLeaf l).length = t.length + 1 := by
  induction t with
  | nil => rfl
  | symbol s f cs rest _ ihr => rw [addLeaf]; split <;> simp [length, ihr]
  | leaf l' f rest ihr => rw [addLeaf]; split <;> simp [length, ihr]

theorem childrenAt_addLeaf (l : HungLeaf) (t : Tree) (j : Nat) :
    (t.addLeaf l).childrenAt [Path.place (upTo l.line.number t) j] = t.childrenAt [j] := by
  induction t generalizing j with
  | nil => simp [addLeaf, upTo, Path.place_zero, childrenAt]
  | symbol s f cs rest _ ihr =>
    rw [addLeaf, upTo]
    split
    · rfl
    · cases j with
      | zero => rfl
      | succ j =>
        rw [Path.place_succ_succ]
        exact ihr j
  | leaf l' f rest ihr =>
    rw [addLeaf, upTo]
    split
    · rfl
    · cases j with
      | zero => rfl
      | succ j =>
        rw [Path.place_succ_succ]
        exact ihr j

/-- Behind the new leaf the siblings are one place further. -/
theorem hung_addLeaf (l : HungLeaf) (t : Tree) : Hung l.line.number t (t.addLeaf l) := by
  intro p
  cases p with
  | nil => simp [pathAfterInsert]
  | cons i q =>
    have hplace : (if (t.addLeaf l).length = t.length + 1 ∧ upTo l.line.number t ≤ i then i + 1
        else i) = Path.place (upTo l.line.number t) i := by
      simp only [length_addLeaf, true_and, Path.place]
      split <;> split <;> omega
    rw [pathAfterInsert, hplace, childrenAt_addLeaf, pathAfterInsert_self, plainAt?, node?_addLeaf,
      plainAt?]

theorem Inserts.length_eq {a : Arrival} (h : Inserts a t t') : t'.length = t.length := by
  induction h with
  | start | deeper | within => rfl
  | next _ _ _ _ ih => exact congrArg (· + 1) ih
  | pass _ ih => exact congrArg (· + 1) ih

theorem Inserts.hung {a : Arrival} (h : Inserts a t t') : Hung a.leaf.line.number t t' := by
  induction h with
  | start => exact hung_symbol (.refl _) (.refl _) rfl
  | deeper _ _ ih => exact hung_symbol ih (.refl _) rfl
  | within => exact hung_symbol (hung_addLeaf _ _) (.refl _) rfl
  | next _ _ _ h ih => exact hung_symbol (.refl _) ih h.length_eq
  | pass h ih => exact hung_leaf ih h.length_eq

theorem hung_insertMatch (a : Arrival) (t : Tree) :
    Hung a.leaf.line.number t (t.insertMatch a) := by
  induction t with
  | nil => exact .refl _
  | symbol s f cs rest _ ihr =>
    have hlen := length_insertMatch a rest
    obtain ⟨-, h⟩ | ⟨g, ds, hi, h⟩ := insertMatch_symbol a s f cs rest
    · rw [h]
      exact hung_symbol (.refl cs) ihr hlen
    · rw [h]
      exact hung_symbol (inserts_of_insertFirst hi).hung.below ihr hlen
  | leaf l f rest ihr => exact hung_leaf ihr (length_insertMatch a rest)

end

/-! ## Without leaves -/

/-- A symbol is found at its place among the symbols when the leaves are dropped. -/
theorem symbolAt?_clearMatches {t : Tree} {p : Path} (h : (t.symbolAt? p).isSome = true) :
    t.clearMatches.symbolAt? (Item.symbolPath t p) = t.symbolAt? p := by
  induction t generalizing p with
  | nil => simp at h
  | symbol s f cs rest ihc ihr =>
    rcases p with _ | ⟨_ | i, q⟩
    · simp at h
    · cases q with
      | nil => simp [clearMatches, Item.symbolPath, Item.symbolsBefore]
      | cons j q =>
        have hbelow := ihc (p := j :: q) (by simpa using h)
        simpa [clearMatches, Item.symbolPath, Item.symbolsBefore, childrenAt] using hbelow
    · have hnext := ihr (p := i :: q) h
      simpa [clearMatches, Item.symbolPath, Item.symbolsBefore, childrenAt] using hnext
  | leaf l f rest ihr =>
    rcases p with _ | ⟨_ | i, q⟩
    · simp at h
    · simp at h
    · have hnext := ihr (p := i :: q) h
      simpa [clearMatches, Item.symbolPath, Item.symbolsBefore, childrenAt] using hnext

/-- Among the leaves a symbol is found again: the symbol that stands at its place among the symbols
has this place. -/
theorem symbolAt?_leafyPath {t : Tree} {p : Path} (h : (t.clearMatches.symbolAt? p).isSome = true) :
    t.symbolAt? (Item.leafyPath t p) = t.clearMatches.symbolAt? p ∧
      Item.symbolPath t (Item.leafyPath t p) = p := by
  induction t generalizing p with
  | nil => simp [clearMatches] at h
  | symbol s f cs rest ihc ihr =>
    rcases p with _ | ⟨_ | i, q⟩
    · simp at h
    · cases q with
      | nil => simp [clearMatches, Item.symbolPath, Item.leafyPath, Item.symbolIndex,
          Item.symbolsBefore]
      | cons j q =>
        have hbelow := ihc (p := j :: q) (by simpa [clearMatches] using h)
        simpa [clearMatches, Item.symbolPath, Item.symbolsBefore, Item.leafyPath,
          Item.symbolIndex, childrenAt] using hbelow
    · have hnext := ihr (p := i :: q) h
      simpa [clearMatches, Item.symbolPath, Item.symbolsBefore, Item.leafyPath, Item.symbolIndex,
        childrenAt] using hnext
  | leaf l f rest ihr =>
    cases p with
    | nil => simp at h
    | cons i q =>
      have hnext := ihr (p := i :: q) h
      cases i <;>
      simpa [clearMatches, Item.symbolPath, Item.symbolsBefore, Item.leafyPath, Item.symbolIndex,
        childrenAt] using hnext

end Tree

end Outline
