import Outline.Tree.Basic

/-!
# Where a node is in its document

The name of a symbol is looked for inside the symbol's range, since the range may begin with other
things. A node counts as standing on the line of its name, and highlights its name.
-/
namespace Outline.Document

/-- The position one character into the name of a symbol, if the name occurs in its range. -/
def namePosition (d : Document) (s : Symbol) : Option Position :=
  (Text.find? s.name (d.textIn s.range)).map fun i =>
    (d.positionAt (d.offsetAt s.range.start + i : Nat)).right 1

/-- The line that a node counts as standing on. -/
def effectiveLine (d : Document) : Node → Nat
  | .leaf l _ => l.line.number
  | .symbol s _ => match d.namePosition s with
    | some p => p.line
    | none => s.startLine

/-- The range that highlights a node: the line of a leaf, the word at the name of a symbol. -/
def nameRange (d : Document) : Node → Range
  | .leaf l _ => l.line.range
  | .symbol s _ => match d.namePosition s with
    | none => Range.empty s.range.start
    | some p => match d.wordAt p with
      | some r => r
      | none => ⟨p.left 1, (p.left 1).right 4⟩

end Outline.Document
