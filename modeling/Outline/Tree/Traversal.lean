import Outline.Tree.Basic

/-!
# Listing an outline

The rows of an outline from top to bottom: all of them, or those on screen. Both listings keep a
stack of forests still to be listed, so their depth does not grow with the outline. Beside them
stand the listings by recursion.
-/
namespace Outline.Tree

/-- A forest that waits to be listed: whose children it is, the index of its first root, and the
forest. -/
structure Pending where
  owner : Path
  index : Nat
  forest : Tree

/-- The work left in a stack. -/
def work : List Pending → Nat
  | [] => 0
  | p :: stack => 2 * p.forest.size + 1 + work stack

/-- Lists every node of the waiting forests, a node before what is below it. -/
def walkAll : List Pending → List Row
  | [] => []
  | ⟨_, _, nil⟩ :: stack => walkAll stack
  | ⟨owner, i, symbol s f cs rest⟩ :: stack =>
    ⟨owner ++ [i], .symbol s f⟩ ::
      walkAll (⟨owner ++ [i], 0, cs⟩ :: ⟨owner, i + 1, rest⟩ :: stack)
  | ⟨owner, i, leaf l f rest⟩ :: stack =>
    ⟨owner ++ [i], .leaf l f⟩ :: walkAll (⟨owner, i + 1, rest⟩ :: stack)
termination_by stack => work stack
decreasing_by all_goals simp only [work, size]; omega

/-- Lists the nodes on screen: hidden nodes are left out with what is below them, and what is
below a folded node is left out. -/
def walkVisible : List Pending → List Row
  | [] => []
  | ⟨_, _, nil⟩ :: stack => walkVisible stack
  | ⟨owner, i, symbol s f cs rest⟩ :: stack =>
    if f.hidden then walkVisible (⟨owner, i + 1, rest⟩ :: stack)
    else
      ⟨owner ++ [i], .symbol s f⟩ ::
        if f.expanded then walkVisible (⟨owner ++ [i], 0, cs⟩ :: ⟨owner, i + 1, rest⟩ :: stack)
        else walkVisible (⟨owner, i + 1, rest⟩ :: stack)
  | ⟨owner, i, leaf l f rest⟩ :: stack =>
    if f.hidden then walkVisible (⟨owner, i + 1, rest⟩ :: stack)
    else ⟨owner ++ [i], .leaf l f⟩ :: walkVisible (⟨owner, i + 1, rest⟩ :: stack)
termination_by stack => work stack
decreasing_by all_goals simp only [work, size]; omega

/-- Every row, from top to bottom. -/
def preorder (t : Tree) : List Row := walkAll [⟨[], 0, t⟩]

def descendants (t : Tree) (p : Path) : List Row := walkAll [⟨p, 0, t.childrenAt p⟩]

def visible (t : Tree) : List Row := walkVisible [⟨[], 0, t⟩]

def symbolRows (t : Tree) : List Row := t.preorder.filter (·.node.symbol?.isSome)

def resultCount (t : Tree) : Nat := t.preorder.countP (·.node.flags.result)

/-! ## By recursion -/

/-- The rows of a forest whose first root is child `i` of `owner`. -/
def rowsFrom (owner : Path) (i : Nat) : Tree → List Row
  | nil => []
  | symbol s f cs rest =>
    ⟨owner ++ [i], .symbol s f⟩ ::
      (rowsFrom (owner ++ [i]) 0 cs ++ rowsFrom owner (i + 1) rest)
  | leaf l f rest => ⟨owner ++ [i], .leaf l f⟩ :: rowsFrom owner (i + 1) rest

/-- The rows on screen of a forest whose first root is child `i` of `owner`. -/
def visibleFrom (owner : Path) (i : Nat) : Tree → List Row
  | nil => []
  | symbol s f cs rest =>
    if f.hidden then visibleFrom owner (i + 1) rest
    else
      ⟨owner ++ [i], .symbol s f⟩ ::
        ((if f.expanded then visibleFrom (owner ++ [i]) 0 cs else []) ++
          visibleFrom owner (i + 1) rest)
  | leaf l f rest =>
    if f.hidden then visibleFrom owner (i + 1) rest
    else ⟨owner ++ [i], .leaf l f⟩ :: visibleFrom owner (i + 1) rest

end Outline.Tree
