import Outline.Document.Position
import Outline.Text.Class

/-!
# Documents

A document is a text cut at line feeds; one carriage return at the end of a line does not belong
to the line's text. Offsets count the whole text, positions name a line and a character of its
text.
-/
namespace Outline

/-- A text with an optional address. -/
structure Document where
  text : Text
  uri : Option Text := none

/-- A line number outside the document, with the number of the last line. -/
structure NoSuchLine where
  asked : Int
  last : Nat
  deriving DecidableEq, Repr

def NoSuchLine.message (e : NoSuchLine) : Text :=
  "line ".toList ++ Text.ofInt e.asked ++ " out of range (0..".toList ++ Text.ofNat e.last ++ [')']

namespace Document

/-- Drops one carriage return from the end. -/
def dropReturn : Text → Text
  | [] => []
  | ['\r'] => []
  | c :: cs => c :: dropReturn cs

/-- The pieces between line feeds. -/
def rawLines (d : Document) : List Text := Text.splitAtChar '\n' d.text

def lines (d : Document) : List Text := d.rawLines.map dropReturn

/-- How many lines there are, at least one. -/
def lineCount (d : Document) : Nat := d.lines.length

def lineAt (d : Document) (n : Int) : Except NoSuchLine Line :=
  if n < 0 then .error ⟨n, d.lineCount - 1⟩
  else match d.lines[n.toNat]? with
    | some text => .ok (Line.whole n.toNat text)
    | none => .error ⟨n, d.lineCount - 1⟩

theorem lineAt_eq_ok {d : Document} {n : Nat} {line : Line} :
    d.lineAt n = .ok line ↔ d.lines[n]? = some line.text ∧ line = Line.whole n line.text := by
  rw [lineAt, if_neg (by omega), Int.toNat_natCast]
  constructor
  · intro h
    split at h
    · rename_i text ht
      cases h
      exact ⟨ht, rfl⟩
    · cases h
  · rintro ⟨ht, hline⟩
    rw [ht]
    exact congrArg Except.ok hline.symm

/-- Where the line of the given number begins. -/
def lineStart : (raw : List Text) → (line : Nat) → Nat
  | text :: raw, line + 1 => text.length + 1 + lineStart raw line
  | _, _ => 0

/-- The offset of a position; a line behind the last one counts as the last one, a character
behind the end of its line as that end. -/
def offsetAt (d : Document) (p : Position) : Nat :=
  let raw := d.rawLines
  let line := min p.line (raw.length - 1)
  let width := ((raw[line]?.map dropReturn).getD []).length
  lineStart raw line + min p.character width

/-- The position `offset` code points into the given pieces, the first of which is line `line`. -/
def locate (offset line : Nat) : List Text → Position
  | [] => ⟨line, 0⟩
  | raw :: rest =>
    if rest.isEmpty || offset ≤ raw.length then ⟨line, min offset (dropReturn raw).length⟩
    else locate (offset - (raw.length + 1)) (line + 1) rest

/-- The position of an offset; an offset outside the text counts as the nearer end, and one behind
a carriage return that ends a line as the end of that line. -/
def positionAt (d : Document) (offset : Int) : Position :=
  locate (min offset.toNat d.text.length) 0 d.rawLines

def textIn (d : Document) (r : Range) : Text :=
  d.text.slice (d.offsetAt r.start) (d.offsetAt r.stop)

/-- The maximal runs of word characters as start and end, in a text that begins at `index`;
`since` is where a run that is still open began. -/
def wordRunsFrom (index : Nat) (since : Option Nat) : Text → List (Nat × Nat)
  | [] => match since with
    | some s => [(s, index)]
    | none => []
  | c :: cs =>
    if isWordChar c then wordRunsFrom (index + 1) (some (since.getD index)) cs
    else match since with
      | some s => (s, index) :: wordRunsFrom (index + 1) none cs
      | none => wordRunsFrom (index + 1) none cs

/-- The maximal runs of word characters as start and end. -/
def wordRuns (t : Text) : List (Nat × Nat) := wordRunsFrom 0 none t

/-- The first word that the position lies in or touches. -/
def wordAt (d : Document) (p : Position) : Option Range := do
  let text ← d.lines[p.line]?
  let (s, e) ← (wordRuns text).find? fun (s, e) => s ≤ p.character && p.character ≤ e
  return Range.ofCoords p.line s p.line e

end Document

end Outline
