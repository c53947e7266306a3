import Outline.Text.Basic

/-!
# Positions and ranges

A place in a document is a line and a character on it, both counted from zero; places are ordered
by line first. A range runs from one place to another, the end not included.
-/
namespace Outline

/-- A place in a document. -/
structure Position where
  line : Nat
  character : Nat := 0
  deriving DecidableEq, Repr

namespace Position

/-- Not behind: an earlier line, or the same line and not a later character. -/
def le (p q : Position) : Bool :=
  p.line < q.line || (p.line == q.line && p.character ≤ q.character)

theorem le_iff {p q : Position} :
    p.le q = true ↔ p.line < q.line ∨ p.line = q.line ∧ p.character ≤ q.character := by
  simp [le]

theorem le_refl (p : Position) : p.le p = true := le_iff.mpr (.inr ⟨rfl, Nat.le_refl _⟩)

theorem le_trans {p q r : Position} (h : p.le q = true) (h' : q.le r = true) : p.le r = true := by
  rw [le_iff] at *
  omega

theorem le_antisymm {p q : Position} (h : p.le q = true) (h' : q.le p = true) : p = q := by
  rw [le_iff] at h h'
  cases p; cases q
  simp only [mk.injEq] at h h' ⊢
  omega

theorem le_of_not_le {p q : Position} (h : ¬p.le q = true) : q.le p = true := by
  rw [le_iff] at *
  omega

theorem line_le_of_le {p q : Position} (h : p.le q = true) : p.line ≤ q.line := by
  rw [le_iff] at h
  omega

/-- Which of the two coordinates of a move would be negative. -/
structure OutOfBounds where
  line : Bool
  character : Bool

/-- The place moved by the two differences, unless a coordinate would be negative. -/
def shift (p : Position) (lines characters : Int) : Except OutOfBounds Position :=
  let line := p.line + lines
  let character := p.character + characters
  if 0 ≤ line ∧ 0 ≤ character then .ok ⟨line.toNat, character.toNat⟩
  else .error ⟨line < 0, character < 0⟩

/-- The place some characters further on the same line. -/
def right (p : Position) (n : Nat) : Position := ⟨p.line, p.character + n⟩

/-- The place some characters back on the same line, not past its beginning. -/
def left (p : Position) (n : Nat) : Position := ⟨p.line, p.character - n⟩

end Position

/-- A half-open span of a document. -/
structure Range where
  start : Position
  stop : Position
  deriving DecidableEq, Repr

namespace Range

def ofCoords (startLine startChar stopLine stopChar : Nat) : Range :=
  ⟨⟨startLine, startChar⟩, ⟨stopLine, stopChar⟩⟩

def empty (p : Position) : Range := ⟨p, p⟩

/-- Whether the second range lies inside the first. -/
def contains (outer inner : Range) : Bool :=
  outer.start.le inner.start && inner.stop.le outer.stop

theorem contains_iff {outer inner : Range} : outer.contains inner = true ↔
    outer.start.le inner.start = true ∧ inner.stop.le outer.stop = true := by
  simp [contains]

end Range

/-- One line of a document, with its number and the range it covers. -/
structure Line where
  number : Nat
  text : Text
  range : Range
  deriving DecidableEq, Repr

/-- The line `number` holding just `text`, from its first character to its end. -/
def Line.whole (number : Nat) (text : Text) : Line :=
  ⟨number, text, Range.ofCoords number 0 number text.length⟩

end Outline
