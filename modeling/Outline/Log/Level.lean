import Outline.Text.Quoted

/-!
# Log levels

Levels are numbers, the usual ones have names. Setting the level by a name that there is not leaves
the level as it was.
-/
namespace Outline

/-- The named levels; where two names share a number the first is the one written. -/
def logLevels : List (String × Nat) :=
  [("CRITICAL", 50), ("FATAL", 50), ("ERROR", 40), ("WARNING", 30), ("WARN", 30), ("INFO", 20),
    ("DEBUG", 10), ("NOTSET", 0)]

/-- A name that no level has. -/
structure UnknownLevel where
  name : Text

namespace UnknownLevel

def message (e : UnknownLevel) : Text := "Unknown level: ".toList ++ e.name.quoted

end UnknownLevel

namespace LogLevel

def ofName (name : Text) : Except UnknownLevel Nat :=
  match logLevels.find? fun l => l.1.toList == name with
  | some l => .ok l.2
  | none => .error ⟨name⟩

def name (level : Int) : Text :=
  match logLevels.find? fun l => (l.2 : Int) == level with
  | some l => l.1.toList
  | none => "Level ".toList ++ Text.ofInt level

end LogLevel

/-- How the log is set up: its level, and whether lines go to the console. -/
structure LogSetup where
  level : Nat := 30
  attached : Bool := false
  deriving DecidableEq, Repr

namespace LogSetup

/-- Sets the level by name and sees to it that lines go to the console, once however often this is
done. -/
def configure (s : LogSetup) (level : Text) : LogSetup × Except UnknownLevel Unit :=
  match LogLevel.ofName level with
  | .ok n => (⟨n, true⟩, .ok ())
  | .error e => (s, .error e)

end LogSetup

end Outline
