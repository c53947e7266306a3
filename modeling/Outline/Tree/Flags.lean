import Outline.Tree.Basic

/-!
# Changing flags

Changes to all nodes, to one node, to the nodes above it and to those below it. None of them
changes what nodes there are, except that clearing the matches drops the leaves.
-/
namespace Outline.Tree

/-! ## All nodes -/

def mapFlags (g : Flags → Flags) : Tree → Tree
  | nil => nil
  | symbol s f cs rest => symbol s (g f) (cs.mapFlags g) (rest.mapFlags g)
  | leaf l f rest => leaf l (g f) (rest.mapFlags g)

/-- Hides and folds every node. -/
def hideAll (t : Tree) : Tree := t.mapFlags ({ · with hidden := true, expanded := false })

/-- Shows and folds every node. -/
def revealAll (t : Tree) : Tree := t.mapFlags ({ · with hidden := false, expanded := false })

def setAllExpanded (value : Bool) (t : Tree) : Tree := t.mapFlags ({ · with expanded := value })

/-- Drops every leaf; no symbol stays a result. -/
def clearMatches : Tree → Tree
  | nil => nil
  | symbol s f cs rest => symbol s { f with result := false } cs.clearMatches rest.clearMatches
  | leaf _ _ rest => rest.clearMatches

/-! ## One node and its surroundings -/

/-- Changes the flags of the node at a path. -/
def modify (g : Flags → Flags) : Tree → Path → Tree
  | t, [] => t
  | nil, _ => nil
  | symbol s f cs rest, i :: p =>
    match i with
    | 0 => if p.isEmpty then symbol s (g f) cs rest else symbol s f (cs.modify g p) rest
    | i + 1 => symbol s f cs (rest.modify g (i :: p))
  | leaf l f rest, i :: p =>
    match i with
    | 0 => if p.isEmpty then leaf l (g f) rest else leaf l f rest
    | i + 1 => leaf l f (rest.modify g (i :: p))

def modifyAbove (g : Flags → Flags) : Tree → Path → Tree
  | t, [] => t
  | nil, _ => nil
  | symbol s f cs rest, i :: p =>
    match i with
    | 0 => if p.isEmpty then symbol s f cs rest else symbol s (g f) (cs.modifyAbove g p) rest
    | i + 1 => symbol s f cs (rest.modifyAbove g (i :: p))
  | leaf l f rest, i :: p =>
    match i with
    | 0 => leaf l f rest
    | i + 1 => leaf l f (rest.modifyAbove g (i :: p))

def modifyBelow (g : Flags → Flags) : Tree → Path → Tree
  | t, [] => t.mapFlags g
  | nil, _ => nil
  | symbol s f cs rest, i :: p =>
    match i with
    | 0 => symbol s f (cs.modifyBelow g p) rest
    | i + 1 => symbol s f cs (rest.modifyBelow g (i :: p))
  | leaf l f rest, i :: p =>
    match i with
    | 0 => leaf l f rest
    | i + 1 => leaf l f (rest.modifyBelow g (i :: p))

/-- The paths of the nodes above a path, nearest first. -/
def above (p : Path) : List Path :=
  ((List.range p.length).drop 1).reverse.map p.take

def expandAbove (t : Tree) (p : Path) : Tree := t.modifyAbove ({ · with expanded := true }) p

/-- Shows and unfolds the way from the roots to a node. -/
def revealAbove (t : Tree) (p : Path) : Tree := t.modifyAbove Flags.opened p

/-- Shows a node as a result, and the way to it. -/
def markResult (t : Tree) (p : Path) : Tree := (t.modify Flags.marked p).revealAbove p

/-- Folds a node and all nodes below it. -/
def fold (t : Tree) (p : Path) : Tree :=
  (t.modify ({ · with expanded := false }) p).modifyBelow ({ · with expanded := false }) p

/-! ## Symbols by a property -/

def anySymbol (p : Symbol → Bool) : Tree → Bool
  | nil => false
  | symbol s _ cs rest => p s || cs.anySymbol p || rest.anySymbol p
  | leaf _ _ rest => rest.anySymbol p

/-- Shows every symbol with the property as a result, and the ways to them. -/
def markWhere (p : Symbol → Bool) : Tree → Tree
  | nil => nil
  | symbol s f cs rest =>
    let f := if p s then f.marked else f
    let f := if cs.anySymbol p then f.opened else f
    symbol s f (cs.markWhere p) (rest.markWhere p)
  | leaf l f rest => leaf l f (rest.markWhere p)

/-- Unfolds the ways to the symbols with the property. -/
def expandTo (p : Symbol → Bool) : Tree → Tree
  | nil => nil
  | symbol s f cs rest =>
    let f := if cs.anySymbol p then { f with expanded := true } else f
    symbol s f (cs.expandTo p) (rest.expandTo p)
  | leaf l f rest => leaf l f (rest.expandTo p)

end Outline.Tree
