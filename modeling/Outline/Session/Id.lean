import Outline.Text.Basic

/-!
# Session ids

Sessions are numbered from one; an id is a prefix and the number with zeros in front.
-/
namespace Outline.SessionId

def usualPrefix : Text := "qo_".toList

/-- The id of a number: at least four characters after the prefix, a minus sign counted. -/
def ofNumber (head : Text) (n : Int) : Text :=
  let digits := Text.ofNat n.natAbs
  let sign := if n < 0 then ['-'] else []
  head ++ sign ++ List.replicate (4 - sign.length - digits.length) '0' ++ digits

/-- The ids of sessions opened one after the other, the first with number `n`. -/
def sequenceFrom (n : Nat) : List Text → List Text
  | [] => []
  | head :: rest => ofNumber head n :: sequenceFrom (n + 1) rest

def first : Text := ofNumber usualPrefix 1

end Outline.SessionId
