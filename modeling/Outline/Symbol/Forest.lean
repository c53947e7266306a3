import Outline.Document.Position
import Outline.Symbol.Kind

/-!
# Symbols

A symbol source gives a forest of symbols in any order. A forest is written as first child and
next sibling: a symbol, the forest below it, and the forest of the symbols after it.
-/
namespace Outline

/-- What is known of one symbol. Its depth in an outline is set when the outline is built; a source
of symbols leaves it at 0. -/
structure Symbol where
  name : Text
  kind : Kind
  range : Range
  detail : Option Text := none
  depth : Nat := 0
  deriving DecidableEq, Repr

namespace Symbol

def startLine (s : Symbol) : Nat := s.range.start.line

end Symbol

/-- A forest of symbols. -/
inductive SymbolForest
  | nil
  | cons (symbol : Symbol) (children rest : SymbolForest)
  deriving Repr, DecidableEq

namespace SymbolForest

def append : SymbolForest → SymbolForest → SymbolForest
  | nil, g => g
  | cons s cs rest, g => cons s cs (append rest g)

instance : Append SymbolForest := ⟨append⟩

/-- A symbol with what is below it, as a forest of one tree. -/
def single (s : Symbol) (children : SymbolForest) : SymbolForest := cons s children nil

/-- The roots, each with the forest below it. -/
def toList : SymbolForest → List (Symbol × SymbolForest)
  | nil => []
  | cons s cs rest => (s, cs) :: rest.toList

/-- Sets the depth of every symbol: that of the roots is given, and a symbol is one deeper than the
one it is below. -/
def placed (depth : Nat) : SymbolForest → SymbolForest
  | nil => nil
  | cons s cs rest => cons { s with depth } (cs.placed (depth + 1)) (rest.placed depth)

def ofList : List (Symbol × SymbolForest) → SymbolForest
  | [] => nil
  | (s, cs) :: ts => cons s cs (ofList ts)

end SymbolForest

end Outline
