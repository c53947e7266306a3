import Outline.Text.Basic

/-!
# Line breaks

Two rules of where a line ends: any of the Unicode line boundaries, or only the three spellings
of a line end in a text file.
-/
namespace Outline.Text

/-- The characters that end a line by themselves. -/
def isLineBoundary (c : Char) : Bool :=
  let n := c.toNat
  (10 ≤ n && n ≤ 13) || (28 ≤ n && n ≤ 30) || n == 0x85 || n == 0x2028 || n == 0x2029

/-- The lines of a text without their ends; a carriage return and a line feed together are one
end, and a text that ends in a line end has no empty line after it. -/
def linesFrom (pending : Text) : Text → List Text
  | [] => if pending.isEmpty then [] else [pending.reverse]
  | '\r' :: '\n' :: cs => pending.reverse :: linesFrom [] cs
  | c :: cs =>
    if isLineBoundary c then pending.reverse :: linesFrom [] cs else linesFrom (c :: pending) cs

def lines (t : Text) : List Text := linesFrom [] t

/-- Writes every line end, `\r\n` or a lone `\r` too, as a line feed. -/
def unifyLineEnds : Text → Text
  | [] => []
  | '\r' :: '\n' :: cs => '\n' :: unifyLineEnds cs
  | c :: cs => (if c = '\r' then '\n' else c) :: unifyLineEnds cs

end Outline.Text
