import Outline.Source.Literal

/-!
# Expressions

The expressions of a Python module, as far as its outline can show them: the defaults and
annotations of parameters and the bases of classes are written out in full.
-/
namespace Outline.Source

/-- The operators between two operands. -/
inductive BinaryOp
  | bitOr
  | bitXor
  | bitAnd
  | shiftLeft
  | shiftRight
  | plus
  | minus
  | times
  | matrixTimes
  | divide
  | floorDivide
  | modulo
  | power
  deriving DecidableEq, Repr

/-- The operators in front of an operand. -/
inductive UnaryOp
  | plus
  | minus
  | invert
  | not
  deriving DecidableEq, Repr

/-- The operators that compare. -/
inductive Comparator
  | equal
  | notEqual
  | less
  | lessEqual
  | greater
  | greaterEqual
  | is
  | isNot
  | member
  | notMember
  deriving DecidableEq, Repr

/-- The parts a parameter can play, in the order in which they may come. -/
inductive Role
  | positionalOnly
  | ordinary
  | rest
  | keywordOnly
  | keywordRest
  deriving DecidableEq, Repr

/-- What a comprehension makes. -/
inductive Shape
  | list
  | set
  | dict
  | generator
  deriving DecidableEq, Repr

mutual

/-- An expression. Keyword arguments, slices and the pairs of a dictionary count as expressions
too, where they may stand. -/
inductive Expr
  | name (id : Text)
  | literal (value : Literal)
  | formatted (parts : List Expr)
  | field (value : Expr) (conversion : Option Char) (spec : Option Expr)
  | assigned (target value : Expr)
  | disjunction (operands : List Expr)
  | conjunction (operands : List Expr)
  | unary (op : UnaryOp) (operand : Expr)
  | binary (op : BinaryOp) (left right : Expr)
  | comparison (first : Expr) (ops : List Comparator) (others : List Expr)
  | conditional (test body other : Expr)
  | lambda (params : List Parameter) (body : Expr)
  | await (value : Expr)
  | yield (value : Option Expr)
  | yieldFrom (value : Expr)
  | call (function : Expr) (arguments : List Expr)
  | keyword (name : Option Text) (value : Expr)
  | member (value : Expr) (name : Text)
  | subscript (value index : Expr)
  | slice (lower upper step : Option Expr)
  | starred (value : Expr)
  | list (items : List Expr)
  | tuple (items : List Expr)
  | set (items : List Expr)
  | dict (items : List Expr)
  | pair (key value : Expr)
  | spread (value : Expr)
  | comprehension (shape : Shape) (element : Expr) (clauses : List Clause)

/-- A parameter of a function. -/
inductive Parameter
  | mk (role : Role) (name : Text) (hint default : Option Expr)

/-- A clause of a comprehension, with its conditions. -/
inductive Clause
  | mk (isAsync : Bool) (target source : Expr) (conditions : List Expr)

end

instance : Inhabited Expr := ⟨.tuple []⟩

namespace Parameter

def role : Parameter → Role
  | mk r _ _ _ => r

def hasDefault : Parameter → Bool
  | mk _ _ _ d => d.isSome

end Parameter

namespace Expr

/-- Whether one name, attribute or item of something is meant. -/
def isSingleTarget : Expr → Bool
  | name _ | member .. | subscript .. => true
  | _ => false

mutual

/-- Whether the expression can be assigned to: a single target, or a tuple or list of such things,
each of which may be starred. -/
def isTarget : Expr → Bool
  | name _ | member .. | subscript .. => true
  | tuple items | list items => allTargets items
  | starred e => isTarget e
  | _ => false

def allTargets : List Expr → Bool
  | [] => true
  | e :: es => isTarget e && allTargets es

end

mutual

def isDeletable : Expr → Bool
  | name _ | member .. | subscript .. => true
  | tuple items | list items => allDeletable items
  | _ => false

def allDeletable : List Expr → Bool
  | [] => true
  | e :: es => isDeletable e && allDeletable es

end

end Expr

end Outline.Source
