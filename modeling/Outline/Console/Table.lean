import Outline.Console.Cell

/-!
# Tables

Rows of cells in columns that are as wide as their widest cell, with or without a frame.
-/
namespace Outline.Table

/-- A column: whether its cells may go over several lines, and its width. -/
structure Column where
  wraps : Bool
  width : Nat

def columns (wraps : List Bool) (rows : List (List Text)) : List Column :=
  wraps.zipIdx.map fun (w, i) =>
    ⟨w, ((rows.map fun row => Cell.width (row.getD i [])).max?).getD 0⟩

/-- The lines of a row, each as its pieces from the columns. -/
def rowLines (columns : List Column) (row : List Text) : List (List Text) :=
  let cells := columns.zipIdx.map fun (c, i) => (c, Cell.lines c.wraps c.width (row.getD i []))
  let height := ((cells.map (·.2.length)).max?).getD 0
  (List.range height).map fun n =>
    cells.map fun (c, lines) => lines.getD n (Text.spaces c.width)

def line (t : Text) : Text := t ++ ['\n']

/-- A table without a frame, two spaces between its columns. -/
def plain (wraps : List Bool) (rows : List (List Text)) : Text :=
  let columns := columns wraps rows
  rows.flatMap fun row =>
    (rowLines columns row).flatMap fun pieces => line (Text.join [' ', ' '] pieces)

/-- A line of a frame: its left end, its stroke, what parts the columns, and its right end. -/
def rule (columns : List Column) (left stroke between right : Char) : Text :=
  line (left :: Text.join [between] (columns.map fun c => List.replicate (c.width + 2) stroke) ++
    [right])

def framedLine (edge : Char) (pieces : List Text) : Text :=
  line (edge :: pieces.flatMap fun p => ' ' :: p ++ [' ', edge])

def centered (width : Nat) (t : Text) : Text :=
  line (Text.padCells width (Text.spaces ((width - Text.cells t) / 2) ++ t))

/-- A table in a frame with a title above and heavy lines around its head. -/
def framed (title : Text) (header : List Text) (rows : List (List Text)) : Text :=
  let columns := columns (header.map fun _ => true) (header :: rows)
  let width := columns.foldl (fun n c => n + (c.width + 3)) 1
  centered width title ++
    rule columns '┏' '━' '┳' '┓' ++
    (rowLines columns header).flatMap (framedLine '┃') ++
    rule columns '┡' '━' '╇' '┩' ++
    (rows.flatMap fun row => (rowLines columns row).flatMap (framedLine '│')) ++
    rule columns '└' '─' '┴' '┘'

end Outline.Table
