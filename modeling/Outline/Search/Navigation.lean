import Outline.Search.Position
import Outline.Tree.Flags
import Outline.Tree.Traversal

/-!
# Moving through an outline

The rules by which a selection moves over the rows last listed: to the row nearest to a line,
around the results, by one row, and into and out of folded groups. The rows last listed may have
gone out of date, so an item is either a node by its path or a leaf that has been dropped.
-/
namespace Outline

/-- Something that was listed. A dropped leaf stays as it was, with the path that its symbol has
in the outline without leaves. -/
inductive Item
  | present (path : Path)
  | dropped (row : Row) (owner : Path)
  deriving DecidableEq, Repr

/-- The way a selection moves. -/
inductive Direction
  | next
  | previous
  deriving DecidableEq, Repr

namespace Item

def row? (t : Tree) : Item → Option Row
  | present p => (t.node? p).map (⟨p, ·⟩)
  | dropped r _ => some r

def isResult (t : Tree) (i : Item) : Bool := (i.row? t).any (·.node.flags.result)

def listed (t : Tree) : List Item := t.visible.map (.present ·.path)

/-- How many children up to index `i` are symbols, the child itself not counted. -/
def symbolsBefore : Nat → Tree → Nat
  | 0, _ => 0
  | _, .nil => 0
  | i + 1, .symbol _ _ _ rest => symbolsBefore i rest + 1
  | i + 1, .leaf _ _ rest => symbolsBefore i rest

/-- The path that a symbol has in the outline without leaves. -/
def symbolPath : Tree → Path → Path
  | _, [] => []
  | t, i :: p => symbolsBefore i t :: symbolPath (t.childrenAt [i]) p

/-- What becomes of an item when the leaves of an outline are dropped. -/
def afterClear (t : Tree) : Item → Item
  | dropped r o => dropped r o
  | present p =>
    match t.node? p with
    | some (.leaf l f) => dropped ⟨p, .leaf l f⟩ (symbolPath t p.dropLast)
    | _ => present (symbolPath t p)

/-- How many siblings from the front are on the line or before it. -/
def upTo (line : Nat) : Tree → Nat
  | .nil => 0
  | .symbol s _ _ rest => if line < s.startLine then 0 else upTo line rest + 1
  | .leaf l _ rest => if line < l.line.number then 0 else upTo line rest + 1

/-- The path of a node after a hit on a line was hung into the outline. -/
def pathAfterInsert (line : Nat) : Tree → Tree → Path → Path
  | _, _, [] => []
  | old, new, i :: p =>
    let j := if new.length = old.length + 1 ∧ upTo line old ≤ i then i + 1 else i
    j :: pathAfterInsert line (old.childrenAt [i]) (new.childrenAt [j]) p

/-- What becomes of an item when a hit on a line is hung into an outline. -/
def afterInsert (line : Nat) (old new : Tree) : Item → Item
  | dropped r o => dropped r o
  | present p => present (pathAfterInsert line old new p)

end Item

namespace Navigation

/-- The row whose line is nearest to the cursor among those that are not hidden and, while a query
is in force, are results. Of rows equally near the last wins. -/
def closest (d : Document) (cursor : Int) (queryActive : Bool) (rows : List Row) : Option Row :=
  (rows.foldl (fun best r =>
    if r.node.flags.hidden || (queryActive && !r.node.flags.result) then best
    else
      let distance := (cursor - d.effectiveLine r.node).natAbs
      match best with
      | some (_, least) => if distance ≤ least then some (r, distance) else best
      | none => some (r, distance)) none).map (·.1)

def indexOf? (items : List Item) (i : Item) : Option Nat := items.findIdx? (· == i)

/-- The next or previous result, going around at either end; `none` when nothing listed is a
result. -/
def cycle (t : Tree) (items : List Item) (current : Option Item) : Direction → Option Item
  | .next =>
    let after := match current.bind (indexOf? items) with
      | some i => items.drop (i + 1)
      | none => items
    (after.find? (·.isResult t)).or (items.find? (·.isResult t))
  | .previous =>
    let before := match current.bind (indexOf? items) with
      | some i => items.take i
      | none => items
    (before.reverse.find? (·.isResult t)).or (items.reverse.find? (·.isResult t))

/-- The neighbour in the list, which does not go around. -/
def step (items : List Item) (current : Option Item) : Direction → Option Item
  | .next =>
    match current.bind (indexOf? items) with
    | some i => items[min (i + 1) (items.length - 1)]?
    | none => items.head?
  | .previous =>
    match current.bind (indexOf? items) with
    | some i => items[i - 1]?
    | none => items.getLast?

/-- The last of the first `n` roots that is not hidden. -/
def shownRootBefore (t : Tree) : Nat → Option Nat
  | 0 => none
  | n + 1 =>
    match t.node? [n] with
    | some node => if node.flags.hidden then shownRootBefore t n else some n
    | none => shownRootBefore t n

/-- Folds the group that an item belongs to and says where the selection goes: to the symbol above
it. A root folds itself, and the selection goes to the nearest root before it that is not
hidden. -/
def collapse (t : Tree) : Item → Tree × Item
  | .dropped _ owner => (t.fold owner, .present owner)
  | .present [i] =>
    (t.fold [i], .present [(shownRootBefore t i).getD i])
  | .present p => (t.fold p.dropLast, .present p.dropLast)

/-- The index of the first child that is not hidden, of siblings counted from `i`. -/
def firstShown (i : Nat) : Tree → Option Nat
  | .nil => none
  | .symbol _ f _ rest => if f.hidden then firstShown (i + 1) rest else some i
  | .leaf _ f rest => if f.hidden then firstShown (i + 1) rest else some i

/-- Unfolds an item and says where the selection goes: to its first child that is not hidden, else
to the row behind it in the list, if there is one. -/
def expand (t : Tree) (items : List Item) (item : Item) : Tree × Item :=
  let follower := match indexOf? items item with
    | some i => (items[i + 1]?).getD item
    | none => item
  match item with
  | .dropped .. => (t, follower)
  | .present p =>
    let t := t.modify ({ · with expanded := true }) p
    match firstShown 0 (t.childrenAt p) with
    | some j => (t, .present (p ++ [j]))
    | none => (t, follower)

end Navigation

end Outline
