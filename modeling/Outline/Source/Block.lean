import Outline.Source.Expr

/-!
# Blocks

The statements of a module or of a class or function, as far as an outline can show them. Of other
statements, also of those that hold blocks of their own, only the place is kept.
-/
namespace Outline.Source

/-- Where a statement stands: the line and the column, in bytes, of its first word, and the line
on which its last word ends. -/
structure Extent where
  line : Nat
  column : Nat
  lastLine : Nat
  deriving DecidableEq, Repr

/-- A sequence of statements: the first with what it holds, and the rest. -/
inductive Block
  | nil
  | classDef (name : Text) (bases : List Expr) (extent : Extent) (body rest : Block)
  | functionDef (name : Text) (params : List Parameter) (extent : Extent) (body rest : Block)
  | assignment (targets : List Expr) (extent : Extent) (rest : Block)
  | other (extent : Extent) (rest : Block)

namespace Block

def append : Block → Block → Block
  | nil, b => b
  | classDef n bs x body rest, b => classDef n bs x body (append rest b)
  | functionDef n ps x body rest, b => functionDef n ps x body (append rest b)
  | assignment ts x rest, b => assignment ts x (append rest b)
  | other x rest, b => other x (append rest b)

def flatten : List Block → Block
  | [] => nil
  | b :: bs => b.append (flatten bs)

end Block

end Outline.Source
