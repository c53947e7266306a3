import Outline.Text.Basic

/-!
# White space

Which characters separate words, and the cuts made there.
-/
namespace Outline

/-- White space: the ASCII separators, the controls U+001C to U+001F, U+0085 and the Unicode
spaces. -/
def isBlank (c : Char) : Bool :=
  let n := c.toNat
  (9 ≤ n && n ≤ 13) || (28 ≤ n && n ≤ 32) || n == 0x85 || n == 0xA0 || n == 0x1680 ||
    (0x2000 ≤ n && n ≤ 0x200A) || n == 0x2028 || n == 0x2029 || n == 0x202F || n == 0x205F ||
    n == 0x3000

namespace Text

def trimLeft (t : Text) : Text := t.dropWhile isBlank

def trimRight : Text → Text
  | [] => []
  | c :: cs =>
    match trimRight cs with
    | [] => if isBlank c then [] else [c]
    | r => c :: r

/-- Without white space at either end. -/
def trim (t : Text) : Text := trimRight (trimLeft t)

/-- The maximal runs of characters that are not white space, the first one extending `pending`
characters already read (last first). -/
def wordsFrom (pending : Text) : Text → List Text
  | [] => if pending.isEmpty then [] else [pending.reverse]
  | c :: cs =>
    if isBlank c then
      if pending.isEmpty then wordsFrom [] cs else pending.reverse :: wordsFrom [] cs
    else wordsFrom (c :: pending) cs

/-- The maximal runs of characters that are not white space. -/
def words (t : Text) : List Text := wordsFrom [] t

end Text

end Outline
