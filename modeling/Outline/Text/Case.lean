import Outline.Text.Basic
import Outline.Text.CaseTable

/-!
# Letter case

Case properties of characters and the lower-case form of a text. The lower-case form is made
character by character except at a capital sigma, which is final at the end of a word.
-/
namespace Outline

open Text

def isUpper (c : Char) : Bool :=
  if c.toNat < 128 then 'A' ≤ c && c ≤ 'Z' else upperSet.contains c.toNat

def isLower (c : Char) : Bool :=
  if c.toNat < 128 then 'a' ≤ c && c ≤ 'z' else lowerSet.contains c.toNat

def isTitle (c : Char) : Bool :=
  if c.toNat < 128 then false else titleSet.contains c.toNat

def lowerCode (n : Nat) : Nat :=
  if n < 128 then if 65 ≤ n ∧ n ≤ 90 then n + 32 else n else ShiftRun.apply lowerRuns n

def upperCode (n : Nat) : Nat :=
  if n < 128 then if 97 ≤ n ∧ n ≤ 122 then n - 32 else n else ShiftRun.apply upperRuns n

/-- The lower-case form of one character. Only the capital I with a dot above has two: a small
i and the dot. -/
def lowerChar (c : Char) : Text :=
  if c.toNat = 0x130 then ['i', Char.ofNat 0x307] else [Char.ofNat (lowerCode c.toNat)]

/-- Whether the nearest character that is not ignored carries a case. -/
def casedAhead : Text → Bool
  | [] => false
  | c :: cs =>
    if caseIgnorableSet.contains c.toNat then casedAhead cs else casedSet.contains c.toNat

namespace Text

/-- The lower-case form of a text that follows `before` (last character first). -/
def lowerAfter (before : Text) : Text → Text
  | [] => []
  | c :: cs =>
    if c.toNat = 0x3A3 then
      let final := casedAhead before && !casedAhead cs
      Char.ofNat (if final then 0x3C2 else 0x3C3) :: lowerAfter (c :: before) cs
    else lowerChar c ++ lowerAfter (c :: before) cs

def lower (t : Text) : Text := lowerAfter [] t

/-- Whether some letter is a capital and none is small or in title case. -/
def isAllUpper (t : Text) : Bool := t.any isUpper && !t.any fun c => isLower c || isTitle c

end Text

end Outline
