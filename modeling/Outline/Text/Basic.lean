/-!
# Texts

A text is a list of code points: every index, length and column of the library counts those. Half
of a surrogate pair is no code point of a text, so strings that hold one on its own are left out.
Here are the searches and cuts that the rest needs.
-/
namespace Outline

/-- A sequence of code points. -/
abbrev Text := List Char

namespace Text

/-- The least index at which `needle` occurs in `hay`. -/
def find? (needle : Text) : Text → Option Nat
  | [] => if needle.isEmpty then some 0 else none
  | c :: cs =>
    if needle.isPrefixOf (c :: cs) then some 0 else (find? needle cs).map (· + 1)

/-- Whether `needle` occurs in `hay`. -/
def occursIn (needle hay : Text) : Bool := (find? needle hay).isSome

/-- The text behind `pre`, when it starts with `pre`. -/
def dropPrefix? : (t pre : Text) → Option Text
  | t, [] => some t
  | [], _ :: _ => none
  | c :: t, p :: pre => if c = p then dropPrefix? t pre else none

/-- Splits at every `sep`; there is always one more piece than separators. -/
def splitAtChar (sep : Char) : List Char → List (List Char)
  | [] => [[]]
  | c :: cs =>
    if c = sep then [] :: splitAtChar sep cs
    else match splitAtChar sep cs with
      | [] => [[c]]
      | p :: ps => (c :: p) :: ps

/-- The code points with index in `[start, stop)`. -/
def slice (t : Text) (start stop : Nat) : Text := (t.take stop).drop start

/-- Fills up with spaces on the right to at least `width` code points. -/
def padRight (width : Nat) (t : Text) : Text := t ++ List.replicate (width - t.length) ' '

/-- `n` spaces. -/
def spaces (n : Nat) : Text := List.replicate n ' '

/-- Puts `sep` between neighbours. -/
def join (sep : Text) : List Text → Text
  | [] => []
  | [t] => t
  | t :: ts => t ++ sep ++ join sep ts

def ofNat (n : Nat) : Text := (Nat.repr n).toList

/-- The decimal digits of a number, after a minus sign when it is negative. -/
def ofInt (i : Int) : Text := if i < 0 then '-' :: ofNat i.natAbs else ofNat i.natAbs

/-- Lexicographic order by code point. -/
def le : Text → Text → Bool
  | [], _ => true
  | _ :: _, [] => false
  | a :: as, b :: bs => if a = b then le as bs else decide (a.toNat < b.toNat)

end Text

end Outline
