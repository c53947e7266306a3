import Outline.Text.Basic
import Outline.Text.WidthTable

/-!
# Cell widths

How many cells of a terminal a text takes.
-/
namespace Outline.Text

def charCells (c : Char) : Nat :=
  if 32 ≤ c.toNat ∧ c.toNat < 127 then 1
  else if zeroWidthSet.contains c.toNat then 0
  else if wideSet.contains c.toNat then 2
  else 1

def cells : Text → Nat
  | [] => 0
  | c :: cs => charCells c + cells cs

/-- Fills up with spaces on the right to at least `width` cells. -/
def padCells (width : Nat) (t : Text) : Text := t ++ spaces (width - cells t)

end Outline.Text
