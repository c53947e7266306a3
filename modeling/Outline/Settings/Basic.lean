import Outline.Search.Mode

/-!
# Settings

What can be set: the log level, the sentinel of queries, the mode to start in, and how rows are
laid out.
-/
namespace Outline

/-- The settings. -/
structure Settings where
  logLevel : Text := "WARNING".toList
  sentinel : Text := ['#']
  defaultMode : Mode := .symbol
  indentWidth : Nat := 4
  lineNumberWidth : Nat := 5
  resultMarker : Text := ['*']
  deriving DecidableEq, Repr

end Outline
