import Outline.Settings.Basic
import Outline.Text.Blank
import Outline.Tree.Basic

/-!
# Texts of a row

The label of a row shows the line number with the result marker, the indentation, the icon and the
name; its description is the detail of the symbol, or else the line it starts on.
-/
namespace Outline.Row

def label (s : Settings) (r : Row) : Text :=
  let indent := Text.spaces (r.depth * s.indentWidth)
  match r.node with
  | .symbol info f =>
    let marker := if f.result then s.resultMarker else []
    Text.padRight s.lineNumberWidth (Text.ofNat info.startLine ++ marker) ++
      [' '] ++ indent ++ [' ', info.kind.icon, ' '] ++ info.name
  | .leaf l _ =>
    Text.padRight s.lineNumberWidth (Text.ofNat l.line.number ++ s.resultMarker) ++
      [' '] ++ indent ++ [' '] ++ l.line.text.trim

def description (d : Document) (r : Row) : Except NoSuchLine Text :=
  match r.node with
  | .leaf .. => .ok []
  | .symbol info _ =>
    match info.detail with
    | some (c :: cs) => .ok (c :: cs)
    | _ => do return Text.trim (← d.lineAt info.startLine).text

end Outline.Row
