import Outline.Text.Blank
import Outline.Text.LineBreak
import Outline.Text.Width

/-!
# Table cells

The lines that a text takes in a column of a given width. Control characters that move the cursor
are left away, tabs are filled up with spaces, words that do not fit go to the next line where
that is allowed, and what is still too long is cut off with an ellipsis.
-/
namespace Outline.Cell

/-- Whether the character moves the cursor and is left away. -/
def isDropped (c : Char) : Bool := [7, 8, 11, 12, 13].contains c.toNat

/-- The text without cursor movements. -/
def clean (t : Text) : Text := t.filter (!isDropped ·)

def width (t : Text) : Nat := (((clean t).lines.map Text.cells).max?).getD 0

def tabWidth : Nat := 8

/-- The text with every tab filled up with spaces; `place` is the cell where it begins. -/
def expandTabs (place : Nat) : Text → Text
  | [] => []
  | c :: cs =>
    if c = '\t' then
      let next := (place / tabWidth + 1) * tabWidth
      Text.spaces (next - place) ++ expandTabs next cs
    else c :: expandTabs (place + Text.charCells c) cs

/-- The words of a line, each with the white space behind it, the first also with that before. -/
def wordsWithSpace : Nat → Text → List Text
  | 0, _ => []
  | fuel + 1, t =>
    let before := t.takeWhile isBlank
    let word := (t.drop before.length).takeWhile (!isBlank ·)
    if word.isEmpty then []
    else
      let behind := (t.drop (before.length + word.length)).takeWhile isBlank
      (before ++ word ++ behind) ::
        wordsWithSpace fuel (t.drop (before.length + word.length + behind.length))

/-- Fills lines with words: `line` is the line begun, `used` the cells counted on it. -/
def fill (width : Nat) (line : Text) (used : Nat) : List Text → List Text
  | [] => [line]
  | word :: rest =>
    let size := Text.cells word.trimRight
    if used + size ≤ width then fill width (line ++ word) (used + Text.cells word) rest
    else if line.isEmpty then fill width word (if width < size then Text.cells word else used) rest
    else line :: fill width word (Text.cells word) rest

/-- The lines that the words of a line take. -/
def wrap (width : Nat) (t : Text) : List Text :=
  match wordsWithSpace t.length t with
  | [] => [t]
  | words => fill width [] 0 words

/-- The beginning of `t` that takes `width` cells, looked for by halving between two places. Where
characters take no cell several beginnings take as many, and the first one met is it; a wide
character that sticks out gives way to a space. -/
def halve (width : Nat) (t : Text) : (fuel start stop : Nat) → Text
  | 0, _, _ => t
  | fuel + 1, start, stop =>
    let place := (start + stop) / 2
    let before := t.take (place + 1)
    let size := Text.cells before
    if size = width + 1 ∧ before.getLast?.any (Text.charCells · = 2) then before.dropLast ++ [' ']
    else if size = width then before
    else if size > width then halve width t fuel start place
    else halve width t fuel place stop

/-- The beginning of a text that takes `width` cells, filled up with spaces. -/
def crop (width : Nat) (t : Text) : Text :=
  if width = 0 then []
  else if Text.cells t ≤ width then Text.padCells width t
  else halve width t t.length 0 t.length

/-- The line without the white space at its end that goes beyond the width. -/
def trimBeyond (width : Nat) (t : Text) : Text :=
  let blanks := t.length - t.trimRight.length
  t.take (t.length - min blanks (t.length - width))

def fit (width : Nat) (t : Text) : Text :=
  let t := trimBeyond width t
  if Text.cells t ≤ width then Text.padCells width t else crop (width - 1) t ++ ['…']

def lines (wraps : Bool) (width : Nat) (t : Text) : List Text :=
  (Text.splitAtChar '\n' (clean t)).flatMap fun line =>
    let line := expandTabs 0 line
    (if wraps then wrap width line else [line]).map (fit width)

end Outline.Cell
