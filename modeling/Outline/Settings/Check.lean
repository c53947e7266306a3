import Outline.Record.Check
import Outline.Settings.Basic

/-!
# Checking settings

Settings come as a record whose fields may all be left out. Fields that are no settings are
ignored.
-/
namespace Outline

/-- Reads the mode to start in, which must be one of the two modes of the library. -/
def Mode.check : Record.Check Mode
  | .str t => match ofName t with
    | other _ => Record.fail .literalError
    | m => .ok m
  | _ => Record.fail .literalError

namespace Settings

def check : Record.Check Settings := Record.record fun j =>
  ((Record.fieldOr "log_level" "WARNING".toList Record.text j).both
    ((Record.fieldOr "sentinel" ['#'] (Record.textOfLength 1 1) j).both
      ((Record.fieldOr "default_mode" .symbol Mode.check j).both
        ((Record.fieldOr "indent_width" 4 (Record.intBetween 0 16) j).both
          ((Record.fieldOr "line_number_width" 5 (Record.intBetween 1 12) j).both
            (Record.fieldOr "result_marker" ['*'] (Record.textOfLength 0 1) j)))))).map
    fun (l, s, m, i, n, r) => ⟨l, s, m, i, n, r⟩

def toJson (s : Settings) : Json :=
  Json.mkObj [("log_level", .str s.logLevel), ("sentinel", .str s.sentinel),
    ("default_mode", .str s.defaultMode.name), ("indent_width", .ofNat s.indentWidth),
    ("line_number_width", .ofNat s.lineNumberWidth), ("result_marker", .str s.resultMarker)]

def names : List String :=
  ["log_level", "sentinel", "default_mode", "indent_width", "line_number_width", "result_marker"]

end Settings

end Outline
