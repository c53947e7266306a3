import Outline.Search.Basic
import Outline.Search.Navigation

/-!
# Browsing an outline

An outline under search together with the rows last listed. The rows are listed only on demand, so
they may be older than the outline: each change carries them along, leaves that are dropped stay
in the list as they were.
-/
namespace Outline

namespace Item

/-- The index of the `n`-th symbol among siblings. -/
def symbolIndex : Nat → Tree → Nat
  | _, .nil => 0
  | 0, .symbol .. => 0
  | n + 1, .symbol _ _ _ rest => symbolIndex n rest + 1
  | n, .leaf _ _ rest => symbolIndex n rest + 1

/-- The path in an outline of the symbol that has the given path in the outline without leaves. -/
def leafyPath : Tree → Path → Path
  | _, [] => []
  | t, n :: p =>
    let i := symbolIndex n t
    i :: leafyPath (t.childrenAt [i]) p

/-- What becomes of an item of the outline without leaves in the outline. -/
def amongLeaves (t : Tree) : Item → Item
  | dropped r o => dropped r o
  | present p => present (leafyPath t p)

end Item

/-- An outline under search and the rows last listed. -/
structure Browser where
  document : Document
  search : Search
  items : List Item := []

namespace Browser

def tree (b : Browser) : Tree := b.search.tree

def adjust (b : Browser) (f : Tree → Tree) : Browser :=
  { b with search := { b.search with tree := f b.tree } }

/-- Lists the rows on screen afresh. -/
def refresh (b : Browser) : Browser := { b with items := Item.listed b.tree }

/-- The rows last listed, as they are now. -/
def rows (b : Browser) : List Row := b.items.filterMap (·.row? b.tree)

def apply (b : Browser) (raw : Text) : Browser × Except Abort Outcome :=
  let (search, outcome) := b.search.apply b.document raw
  let before := match outcome with
    | .ok ⟨.none, _, _, _⟩ => b.tree
    | _ => b.tree.hideAll
  let items := b.items.map fun i => (i.afterClear before).amongLeaves search.tree
  ({ b with search, items }, outcome)

/-- Drops every leaf; no symbol stays a result. -/
def clearMatches (b : Browser) : Browser :=
  { b.adjust Tree.clearMatches with items := b.items.map (Item.afterClear b.tree) }

/-- Hangs a hit into the outline and says whether it was taken. -/
def insert (b : Browser) (a : Arrival) : Browser × Bool :=
  let tree := b.tree.insertMatch a
  let carry := Item.afterInsert a.leaf.line.number b.tree tree
  ({ b.adjust (fun _ => tree) with items := b.items.map carry }, b.tree.takes a)

/-- Unfolds the node at a path and says where the selection goes. -/
def expand (b : Browser) (p : Path) : Browser × Item :=
  let (tree, i) := Navigation.expand b.tree b.items (.present p)
  (b.adjust fun _ => tree, i)

/-- Folds the group of the node at a path and says where the selection goes. -/
def collapse (b : Browser) (p : Path) : Browser × Item :=
  let (tree, i) := Navigation.collapse b.tree (.present p)
  (b.adjust fun _ => tree, i)

end Browser

end Outline
