import Outline.Proofs.Tree.Insert

/-!
# Tours

A tour of a forest enters every symbol before what is below it and leaves it afterwards. A hit can
be taken on entering a symbol that starts on its line and on leaving one that holds it
(`Arrival.takenAt`). Each root is toured on its own, so a hit lands at most once in each
(`landings`). In an outline without leaves the stops on entering are the nodes at their paths
(`mem_tour`).
-/
namespace Outline

/-- If the first with one property has another, and the first with the other has the one, then they
are the same. -/
theorem find?_unique {α : Type} {p q : α → Bool} {x y : α} {l : List α} (hx : l.find? p = some x)
    (hy : l.find? q = some y) (hqx : q x = true) (hpy : p y = true) : x = y := by
  induction l with
  | nil => cases hx
  | cons z l ih =>
    rw [List.find?_cons] at hx hy
    cases hp : p z <;> cases hq : q z <;> simp only [hp, hq, Option.some.injEq] at hx hy
    · exact ih hx hy
    · rw [hy, hpy] at hp; cases hp
    · rw [hx, hqx] at hq; cases hq
    · exact hx.symm.trans hy

/-- A symbol at its place on a tour, entered or left. -/
structure Stop where
  path : Path
  symbol : Symbol
  entering : Bool
  deriving DecidableEq, Repr

namespace SymbolForest

/-- The tour of a forest whose first root is child `i` of `owner`. -/
def tourFrom (owner : Path) (i : Nat) : SymbolForest → List Stop
  | nil => []
  | cons s cs rest =>
    ⟨owner ++ [i], s, true⟩ ::
      (tourFrom (owner ++ [i]) 0 cs ++ ⟨owner ++ [i], s, false⟩ :: tourFrom owner (i + 1) rest)

/-- The tours of the roots, counted from `i`. -/
def tours (i : Nat) : SymbolForest → List (List Stop)
  | nil => []
  | cons s cs rest => tourFrom [] i (single s cs) :: tours (i + 1) rest

/-- Where the roots, counted from `i`, first have a stop with the property. -/
def landings (takes : Stop → Bool) (i : Nat) (F : SymbolForest) : List Stop :=
  (F.tours i).filterMap (·.find? takes)

theorem flatten_tours (i : Nat) (F : SymbolForest) : (F.tours i).flatten = F.tourFrom [] i := by
  induction F generalizing i with
  | nil => rfl
  | cons s cs rest _ ihr => simp [tours, tourFrom, single, ihr]

theorem landings_cons (takes : Stop → Bool) (i : Nat) (s : Symbol) (cs rest : SymbolForest) :
    (cons s cs rest).landings takes i =
      ((tourFrom [] i (single s cs)).find? takes).toList ++ rest.landings takes (i + 1) := by
  rw [landings, tours, List.filterMap_cons]
  cases (tourFrom [] i (single s cs)).find? takes <;> rfl

theorem mem_landings {takes : Stop → Bool} {i : Nat} {F : SymbolForest} {st : Stop} :
    st ∈ F.landings takes i ↔ ∃ tour ∈ F.tours i, tour.find? takes = some st := by
  simp [landings]

theorem mem_preorder_iff {F : SymbolForest} {owner : Path} {i : Nat} {s : Symbol} :
    s ∈ F.preorder ↔ ∃ p, ⟨p, s, true⟩ ∈ F.tourFrom owner i := by
  induction F generalizing owner i with
  | nil => simp [preorder, tourFrom]
  | cons s' cs rest ihc ihr =>
    simp [preorder, tourFrom, exists_or, ← ihc, ← ihr]

theorem mem_tourFrom_of_mem_landings {takes : Stop → Bool} {i : Nat} {F : SymbolForest} {st : Stop}
    (h : st ∈ F.landings takes i) : st ∈ F.tourFrom [] i := by
  obtain ⟨tour, ht, hf⟩ := mem_landings.mp h
  rw [← flatten_tours]
  exact List.mem_flatten.mpr ⟨tour, ht, List.mem_of_find?_eq_some hf⟩

end SymbolForest

/-- Whether a hit may be taken at a stop. -/
def Arrival.takenAt (a : Arrival) (st : Stop) : Bool :=
  if st.entering then a.startsAt st.symbol else a.fitsIn st.symbol

namespace Tree

/-! ## Outlines without leaves -/

/-- Whether there is no leaf. -/
def Leafless : Tree → Prop
  | nil => True
  | symbol _ _ cs rest => cs.Leafless ∧ rest.Leafless
  | leaf .. => False

theorem leafless_iff {t : Tree} : t.Leafless ↔ ∀ p l f, t.node? p ≠ some (.leaf l f) := by
  induction t with
  | nil => simp [Leafless]
  | symbol s g cs rest ihc ihr =>
    rw [Leafless, ihc, ihr]
    constructor
    · rintro ⟨hc, hr⟩ p l f
      match p with
      | [] => simp
      | [0] => simp
      | 0 :: j :: q => simpa using hc (j :: q) l f
      | (i + 1) :: q => exact hr (i :: q) l f
    · intro h
      constructor
      · intro p l f hp
        cases p with
        | nil => simp at hp
        | cons j q => exact h (0 :: j :: q) l f (by simpa using hp)
      · intro p l f hp
        cases p with
        | nil => simp at hp
        | cons i q => exact h ((i + 1) :: q) l f hp
  | leaf l g rest _ => exact ⟨nofun, fun h => h [0] l g rfl⟩

/-! ## Results by their paths -/

/-- Whether the node at a path is a result, in a forest whose first root is child `i` of `owner`. -/
def Marked (owner : Path) (i : Nat) (t : Tree) (p : Path) : Prop :=
  ∃ n, ⟨p, n⟩ ∈ rowsFrom owner i t ∧ n.flags.result = true

theorem not_marked_nil (owner : Path) (i : Nat) (p : Path) : ¬Marked owner i nil p := by
  simp [Marked, rowsFrom]

theorem marked_symbol {owner : Path} {i : Nat} {s f cs rest} {p : Path} :
    Marked owner i (symbol s f cs rest) p ↔
      (p = owner ++ [i] ∧ f.result = true) ∨ Marked (owner ++ [i]) 0 cs p ∨
        Marked owner (i + 1) rest p := by
  simp only [Marked, rowsFrom, List.mem_cons, List.mem_append, Row.mk.injEq, or_and_right,
    exists_or]
  refine or_congr_left ⟨?_, ?_⟩
  · rintro ⟨n, ⟨hp, rfl⟩, hf⟩
    exact ⟨hp, hf⟩
  · rintro ⟨hp, hf⟩
    exact ⟨_, ⟨hp, rfl⟩, hf⟩

theorem marked_iff {t : Tree} {p : Path} {n : Node} (h : t.node? p = some n) :
    Marked [] 0 t p ↔ n.flags.result = true := by
  simp only [Marked, ← preorder_eq, mem_preorder, h, Option.some.injEq, exists_eq_left']

/-- In an outline without leaves the symbols are where the tour enters them. -/
theorem mem_tourFrom {t : Tree} (ht : t.Leafless) {owner : Path} {i : Nat} {p : Path} {s : Symbol} :
    ⟨p, s, true⟩ ∈ t.symbols.tourFrom owner i ↔ ∃ f, ⟨p, .symbol s f⟩ ∈ rowsFrom owner i t := by
  induction t generalizing owner i with
  | nil => simp [symbols, SymbolForest.tourFrom, rowsFrom]
  | symbol s' g cs rest ihc ihr =>
    simp [symbols, SymbolForest.tourFrom, rowsFrom, ihc ht.1, ihr ht.2, exists_or]
  | leaf => exact ht.elim

theorem mem_tour {t : Tree} (ht : t.Leafless) {p : Path} {s : Symbol} :
    ⟨p, s, true⟩ ∈ t.symbols.tourFrom [] 0 ↔ ∃ f, t.node? p = some (.symbol s f) := by
  simp only [mem_tourFrom ht, ← preorder_eq, mem_preorder]

theorem node?_of_entering {t : Tree} (ht : t.Leafless) {st : Stop}
    (hst : st ∈ t.symbols.tourFrom [] 0) (he : st.entering = true) :
    ∃ f, t.node? st.path = some (.symbol st.symbol f) := by
  obtain ⟨p, s, e⟩ := st
  obtain rfl : e = true := he
  exact (mem_tour ht).mp hst

theorem eq_of_entering {t : Tree} (ht : t.Leafless) {x y : Stop} (hx : x ∈ t.symbols.tourFrom [] 0)
    (hy : y ∈ t.symbols.tourFrom [] 0) (hxe : x.entering = true) (hye : y.entering = true)
    (hp : x.path = y.path) : x = y := by
  obtain ⟨f, hf⟩ := node?_of_entering ht hx hxe
  obtain ⟨g, hg⟩ := node?_of_entering ht hy hye
  rw [hp, hg] at hf
  obtain ⟨p, s, e⟩ := x
  obtain ⟨p', s', e'⟩ := y
  simp only [Option.some.injEq, Node.symbol.injEq] at hf hp hxe hye
  rw [hp, hf.1, hxe, hye]

end Tree

end Outline
