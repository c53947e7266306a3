import Outline.Text.Basic

/-!
# Search modes and what is remembered of each

A query searches the names of symbols or the lines of the document. A host may bring a mode of its
own: it searches names, but shares the memory of the line search and has no unfiltered view.
-/
namespace Outline

/-- What a query searches. -/
inductive Mode
  | symbol
  | text
  | other (name : Text)
  deriving DecidableEq, Repr

namespace Mode

def name : Mode → Text
  | symbol => "symbol".toList
  | text => "text".toList
  | other n => n

def ofName (t : Text) : Mode :=
  if t = "symbol".toList then symbol else if t = "text".toList then text else other t

end Mode

/-- The query last typed in each mode, kept while outlines come and go. -/
structure Memory where
  symbolQuery : Text := []
  textQuery : Text := []
  deriving DecidableEq, Repr

namespace Memory

def get (m : Memory) : Mode → Text
  | .symbol => m.symbolQuery
  | _ => m.textQuery

def set (m : Memory) : Mode → Text → Memory
  | .symbol, q => { m with symbolQuery := q }
  | _, q => { m with textQuery := q }

end Memory

end Outline
