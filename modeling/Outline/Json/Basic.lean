import Outline.Decimal.Binary64
import Outline.Text.Basic

/-!
# JSON values

Whole numbers are kept apart from numbers written with a point or a power. The fields of an object
keep the order in which their names first appear; of two fields with one name the later value
counts.
-/
namespace Outline

/-- A JSON value; beside the numbers of the grammar there are the three that are none. -/
inductive Json
  | null
  | bool (b : Bool)
  | int (i : Int)
  | float (negative : Bool) (value : Decimal)
  | notANumber
  | infinity (negative : Bool)
  | str (t : Text)
  | arr (items : List Json)
  | obj (fields : List (Text × Json))
  deriving Repr, Inhabited

namespace Json

def field? (name : Text) : Json → Option Json
  | obj fields => fields.lookup name
  | _ => none

def ofString (s : String) : Json := str s.toList

def ofNat (n : Nat) : Json := int n

def mkObj (fields : List (String × Json)) : Json := obj (fields.map fun (k, v) => (k.toList, v))

/-- An optional value, `null` when missing. -/
def ofOption {α : Type} (f : α → Json) : Option α → Json
  | some a => f a
  | none => null

/-- Sets a field of an object, in place when the name is there already. -/
def putField (name : Text) (value : Json) : List (Text × Json) → List (Text × Json)
  | [] => [(name, value)]
  | (k, v) :: fields =>
    if k = name then (k, value) :: fields else (k, v) :: putField name value fields

end Json

end Outline
