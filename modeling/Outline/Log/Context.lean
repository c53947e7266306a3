import Outline.Log.Level

/-!
# Log context

Every log line says which session it belongs to and in which mode that session searches. Contexts
nest: leaving one brings back the one around it.
-/
namespace Outline

/-- The session and the mode that log lines are marked with. -/
structure LogContext where
  sessionId : Text := ['-']
  mode : Text := ['-']
  deriving DecidableEq, Repr

namespace LogContext

/-- The context inside another; without a mode of its own it keeps that of the other. -/
def enter (outer : LogContext) (sessionId : Text) (mode : Option Text) : LogContext :=
  match mode with
  | some (c :: cs) => ⟨sessionId, c :: cs⟩
  | _ => ⟨sessionId, outer.mode⟩

/-- The contexts in force one after the other while contexts are entered inside each other and
left again, beginning and ending with the outermost. -/
def visits (outer : LogContext) : List (Text × Option Text) → List LogContext
  | [] => [outer]
  | (id, mode) :: rest => outer :: visits (outer.enter id mode) rest ++ [outer]

/-- A log line without its time stamp. -/
def line (c : LogContext) (logger : Text) (level : Int) (message : Text) : Text :=
  LogLevel.name level ++ " session=".toList ++ c.sessionId ++ " mode=".toList ++ c.mode ++
    [' '] ++ logger ++ ": ".toList ++ message

end LogContext

end Outline
