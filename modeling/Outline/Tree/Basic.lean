import Outline.Query.Hit
import Outline.Symbol.Forest

/-!
# Outline trees

An outline is a forest of symbols with flags, under which matched lines hang as leaves. Like the
symbols it is made of, it is written as first child and next sibling: a node, what is below it,
and the siblings after it. Nodes are named by paths of child indices from the roots.
-/
namespace Outline

/-- The switches of a node. -/
structure Flags where
  hidden : Bool := false
  expanded : Bool := false
  result : Bool := false
  deriving DecidableEq, Repr

namespace Flags

/-- Shown, and unfolded: what becomes of the nodes above something to be seen. -/
def opened (f : Flags) : Flags := { f with hidden := false, expanded := true }

def marked (f : Flags) : Flags := { f with hidden := false, result := true }

/-- The flags of a new leaf, which is a result from the start. -/
def leaf : Flags := { result := true }

end Flags

/-- A matched line with what was found on it. -/
structure Leaf where
  line : Line
  hit : Hit
  deriving DecidableEq, Repr

/-- A leaf as it hangs in an outline. -/
structure HungLeaf extends Leaf where
  depth : Nat
  deriving DecidableEq, Repr

/-- The leaf as it hangs below a symbol, one deeper than that. -/
def Leaf.under (l : Leaf) (s : Symbol) : HungLeaf := ⟨l, s.depth + 1⟩

/-- A forest of symbols and leaves. -/
inductive Tree
  | nil
  | symbol (info : Symbol) (flags : Flags) (children rest : Tree)
  | leaf (leaf : HungLeaf) (flags : Flags) (rest : Tree)
  deriving DecidableEq, Repr

/-- Child indices from the roots down. -/
abbrev Path := List Nat

/-- One node without its children. -/
inductive Node
  | symbol (info : Symbol) (flags : Flags)
  | leaf (leaf : HungLeaf) (flags : Flags)
  deriving DecidableEq, Repr

namespace Node

def flags : Node → Flags
  | symbol _ f => f
  | leaf _ f => f

/-- How deep the node was put. -/
def depth : Node → Nat
  | symbol s _ => s.depth
  | leaf l _ => l.depth

def line : Node → Nat
  | symbol s _ => s.startLine
  | leaf l _ => l.line.number

def symbol? : Node → Option Symbol
  | symbol s _ => some s
  | leaf .. => none

/-- The range to show for a node: that of the symbol, or of the line. -/
def range : Node → Range
  | symbol s _ => s.range
  | leaf l _ => l.line.range

end Node

/-- A node with its place in the outline. -/
structure Row where
  path : Path
  node : Node
  deriving DecidableEq, Repr

/-- How deep the node of a row was put. -/
def Row.depth (r : Row) : Nat := r.node.depth

namespace Tree

def append : Tree → Tree → Tree
  | nil, u => u
  | symbol s f cs rest, u => symbol s f cs (append rest u)
  | leaf l f rest, u => leaf l f (append rest u)

def size : Tree → Nat
  | nil => 0
  | symbol _ _ cs rest => 1 + cs.size + rest.size
  | leaf _ _ rest => 1 + rest.size

def length : Tree → Nat
  | nil => 0
  | symbol _ _ _ rest => rest.length + 1
  | leaf _ _ rest => rest.length + 1

/-! ## Building -/

/-- Puts a symbol into a sorted forest, in front of those that start at the same place. -/
def insertByStart (s : Symbol) (children : Tree) : Tree → Tree
  | nil => symbol s {} children nil
  | symbol s' f cs rest =>
    if s.range.start.le s'.range.start then symbol s {} children (symbol s' f cs rest)
    else symbol s' f cs (insertByStart s children rest)
  | leaf l f rest => leaf l f (insertByStart s children rest)

/-- A forest of symbols with every level in order of start position, symbols that start at the same
place in the given order, all flags off. -/
def sortLevels : SymbolForest → Tree
  | .nil => nil
  | .cons s cs rest => insertByStart s (sortLevels cs) (sortLevels rest)

/-- The outline of a forest of symbols: the roots are put at depth 0, and every level is sorted. -/
def build (F : SymbolForest) : Tree := sortLevels (F.placed 0)

/-- The symbols of an outline, leaves and flags forgotten. -/
def symbols : Tree → SymbolForest
  | nil => .nil
  | symbol s _ cs rest => .cons s cs.symbols rest.symbols
  | leaf _ _ rest => rest.symbols

/-! ## Nodes by path -/

def node? : Tree → Path → Option Node
  | _, [] => none
  | nil, _ => none
  | symbol s f cs rest, i :: p =>
    match i with
    | 0 => if p.isEmpty then some (.symbol s f) else cs.node? p
    | i + 1 => rest.node? (i :: p)
  | leaf l f rest, i :: p =>
    match i with
    | 0 => if p.isEmpty then some (.leaf l f) else none
    | i + 1 => rest.node? (i :: p)

/-- What is below the node at a path; all of the outline for the empty path. -/
def childrenAt : Tree → Path → Tree
  | t, [] => t
  | nil, _ => nil
  | symbol _ _ cs rest, i :: p =>
    match i with
    | 0 => cs.childrenAt p
    | i + 1 => rest.childrenAt (i :: p)
  | leaf _ _ rest, i :: p =>
    match i with
    | 0 => nil
    | i + 1 => rest.childrenAt (i :: p)

end Tree

end Outline
