import Outline.Tree.Flags

/-!
# Hanging hits into an outline

A hit on a line belongs to the symbol that starts on the line, which becomes a result, or else to
the innermost symbol whose range holds the line, which gets a leaf. Each root takes the hit at
most once, and the way down is shown and unfolded. A filter of kinds says which symbols may take
it.
-/
namespace Outline

/-- A hit on its way into an outline: the line, the spans and which kinds may take it. -/
structure Arrival where
  leaf : Leaf
  kinds : Option (List Kind) := none

namespace Arrival

def admits (a : Arrival) (s : Symbol) : Bool :=
  match a.kinds with
  | none => true
  | some ks => ks.contains s.kind

/-- Whether a symbol may take the hit because it starts on the line. -/
def startsAt (a : Arrival) (s : Symbol) : Bool :=
  a.admits s && a.leaf.line.number == s.startLine

/-- Whether a symbol may take the hit because its range holds the line. -/
def fitsIn (a : Arrival) (s : Symbol) : Bool :=
  a.admits s && s.range.contains a.leaf.line.range

def qualifies (a : Arrival) (s : Symbol) : Bool := a.startsAt s || a.fitsIn s

end Arrival

namespace Tree

/-- Puts a leaf among siblings, in front of the first on a later line. -/
def addLeaf (l : HungLeaf) : Tree → Tree
  | nil => leaf l .leaf nil
  | symbol s f cs rest =>
    if l.line.number < s.startLine then leaf l .leaf (symbol s f cs rest)
    else symbol s f cs (addLeaf l rest)
  | leaf l' f rest =>
    if l.line.number < l'.line.number then leaf l .leaf (leaf l' f rest)
    else leaf l' f (addLeaf l rest)

/-- Gives the hit to the first sibling that takes it, below it if something there does. -/
def insertFirst (a : Arrival) : Tree → Option Tree
  | nil => none
  | symbol s f cs rest =>
    if a.startsAt s then some (symbol s f.marked cs rest)
    else match insertFirst a cs with
      | some cs' => some (symbol s f.opened cs' rest)
      | none =>
        if a.fitsIn s then some (symbol s f.opened (cs.addLeaf (a.leaf.under s)) rest)
        else (insertFirst a rest).map (symbol s f cs)
  | leaf l f rest => (insertFirst a rest).map (leaf l f)

/-- Gives the hit to every root that takes it. -/
def insertMatch (a : Arrival) : Tree → Tree
  | nil => nil
  | symbol s f cs rest =>
    ((insertFirst a (symbol s f cs nil)).getD (symbol s f cs nil)).append (insertMatch a rest)
  | leaf l f rest => leaf l f (insertMatch a rest)

def takes (a : Arrival) : Tree → Bool
  | nil => false
  | symbol s f cs rest => (insertFirst a (symbol s f cs nil)).isSome || takes a rest
  | leaf _ _ rest => takes a rest

/-- Gives several hits in turn. -/
def insertAll (as : List Arrival) (t : Tree) : Tree := as.foldl (fun t a => t.insertMatch a) t

end Tree

end Outline
