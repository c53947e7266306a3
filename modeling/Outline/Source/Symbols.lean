import Outline.Document.Basic
import Outline.Source.BlockReader
import Outline.Source.ExprPrinter
import Outline.Symbol.Forest
import Outline.Text.Case

/-!
# Symbols of a module

The classes and functions of a module and the names it assigns, with what they hold. Symbols come
from the statements that stand directly in the module, a class or a function, not from those in
other statements, and names assigned in a function are left out. A range goes from the first
word of a statement, its decorators left away, to the end of the line on which its last word ends.
-/
namespace Outline.Source

/-- Why a document gives no symbols. -/
inductive Fault
  | malformed (cause : Malformed)
  | noSuchLine (cause : NoSuchLine)
  | unwritable (cause : Unwritable)
  deriving DecidableEq, Repr

def Fault.message : Fault → Text
  | malformed cause => cause.message.toList
  | noSuchLine cause => cause.message
  | unwritable cause => cause.message.toList

/-- What symbols stand directly in. -/
inductive Container
  | module
  | plainClass
  | enum
  | function
  deriving DecidableEq, Repr

def enumBases : List String := ["Enum", "IntEnum", "StrEnum", "Flag", "IntFlag"]

namespace Expr

/-- The last name of a base that is a name, alone or taken from something. -/
def lastName? : Expr → Option Text
  | name id => some id
  | member _ id => some id
  | _ => none

def isEnumBase (e : Expr) : Bool := e.lastName?.any fun id => enumBases.any (·.toList == id)

/-- The names that a target assigns: its own, or those directly in a tuple. -/
def assignedNames : Expr → List Text
  | name id => [id]
  | tuple items => items.filterMap fun
    | name id => some id
    | _ => none
  | _ => []

end Expr

namespace Container

def functionKind (c : Container) (name : Text) : Kind :=
  match c with
  | plainClass | enum => if name = "__init__".toList then .constructor else .method
  | _ => .function

def assignmentKind (c : Container) (name : Text) : Kind :=
  match c with
  | enum => .enumMember
  | plainClass => .property
  | _ => if name.isAllUpper then .constant else .variable

end Container

namespace Extent

def range (d : Document) (x : Extent) : Except Fault Range :=
  match d.lineAt x.lastLine with
  | .ok l => .ok (Range.ofCoords x.line x.column x.lastLine l.text.length)
  | .error e => .error (.noSuchLine e)

end Extent

/-- What the printer makes of something, its failure as a fault. -/
def written {α : Type} (r : Except Unwritable α) : Except Fault α :=
  match r with
  | .ok a => .ok a
  | .error e => .error (.unwritable e)

namespace Block

/-- The bases of a class as they are written, none if there are none. -/
def basesDetail (bases : List Expr) : Except Fault (Option Text) := do
  let text := Text.join [',', ' '] (← bases.mapM fun b => written b.print)
  return if text.isEmpty then none else some ('(' :: text ++ [')'])

def symbols (d : Document) (c : Container) : Block → Except Fault SymbolForest
  | nil => .ok .nil
  | classDef name bases x body rest => do
    let isEnum := bases.any Expr.isEnumBase
    let detail ← basesDetail bases
    let range ← x.range d
    let children ← symbols d (if isEnum then .enum else .plainClass) body
    let siblings ← symbols d c rest
    let kind := if isEnum then .enum else .class
    return .cons { name, kind, range, detail } children siblings
  | functionDef name params x body rest => do
    let range ← x.range d
    let detail ← written (Expr.printParameters params)
    let children ← symbols d .function body
    let siblings ← symbols d c rest
    let kind := c.functionKind name
    return .cons { name, kind, range, detail := some ('(' :: detail ++ [')']) } children siblings
  | assignment targets x rest => do
    let names := if c = .function then [] else targets.flatMap Expr.assignedNames
    let own ← names.mapM fun name => do
      return ({ name, kind := c.assignmentKind name, range := ← x.range d }, .nil)
    let siblings ← symbols d c rest
    return (SymbolForest.ofList own).append siblings
  | other _ rest => symbols d c rest

end Block

/-- The symbols of a document, in the order of the source. -/
def symbols (d : Document) : Except Fault SymbolForest :=
  match Block.read d.text with
  | .error e => .error (.malformed e)
  | .ok b => b.symbols d .module

end Outline.Source
