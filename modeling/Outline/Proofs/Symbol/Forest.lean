import Outline.Symbol.Forest

/-!
# Forests of symbols

The symbols of a forest from top to bottom and on its top level, and what can be said of a level
with the levels below it: that it is in order of start position (`Sorted`), and that every symbol
holds those directly below it (`Nested`).
-/
namespace Outline.SymbolForest

def preorder : SymbolForest → List Symbol
  | nil => []
  | cons s cs rest => s :: (cs.preorder ++ rest.preorder)

/-- The symbols on the top level. -/
def roots : SymbolForest → List Symbol
  | nil => []
  | cons s _ rest => s :: rest.roots

/-- Every level is in order of start position. -/
def Sorted : SymbolForest → Prop
  | nil => True
  | cons s cs rest =>
    (∀ x ∈ rest.roots, s.range.start.le x.range.start = true) ∧ cs.Sorted ∧ rest.Sorted

/-- Every symbol holds the symbols directly below it. -/
def Nested : SymbolForest → Prop
  | nil => True
  | cons s cs rest => (∀ x ∈ cs.roots, s.range.contains x.range = true) ∧ cs.Nested ∧ rest.Nested

theorem Sorted.pairwise {F : SymbolForest} (h : F.Sorted) :
    F.roots.Pairwise fun a b => a.range.start.le b.range.start = true := by
  induction F with
  | nil => exact .nil
  | cons s cs rest _ ihr =>
    obtain ⟨hs, -, hrest⟩ := h
    exact .cons hs (ihr hrest)

end Outline.SymbolForest
