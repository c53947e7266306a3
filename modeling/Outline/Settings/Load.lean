import Outline.Settings.Assignments
import Outline.Settings.Check
import Outline.Storage.Folder
import Outline.Text.Case

/-!
# Loading settings

Settings are looked up in the environment first and in a settings file second, under their names
with a prefix and without regard to case. The file is named by the environment, or else is the one
in the current folder; a file that is not there is no fault.
-/
namespace Outline

/-- Why settings cannot be loaded. -/
inductive LoadFault
  | invalid (issues : List Record.Issue)
  | unreadable (cause : Utf8.DecodeError)

namespace Settings

def variablePrefix : Text := "quickoutline_".toList

def fileVariable : Text := "QUICKOUTLINE_ENV_FILE".toList

def filePath (environment : List (Text × Text)) : Text :=
  match environment.reverse.lookup fileVariable with
  | some (c :: cs) => c :: cs
  | _ => ".env".toList

/-- The value of a variable whose name is compared without regard to case; of several the last
counts. -/
def valueOf? {α : Type} (name : Text) (assigned : List (Text × α)) : Option α :=
  (assigned.reverse.find? fun v => v.1.lower == name).map (·.2)

def lookup? (environment : List (Text × Text)) (assigned : List (Text × Option Text))
    (name : String) : Option Text :=
  let full := variablePrefix ++ name.toList
  (valueOf? full environment).or ((valueOf? full assigned).bind id)

/-- Loads settings from the environment and from what the path of the settings file leads to. -/
def load (environment : List (Text × Text)) (file : Entry) : Except LoadFault Settings := do
  let assigned ← match file with
    | .file bytes =>
      match Entry.text bytes with
      | .ok t => .ok (Assignments.evaluate environment t)
      | .error e => .error (.unreadable e)
    | _ => .ok []
  let given := names.filterMap fun n =>
    (lookup? environment assigned n).map fun v => (n.toList, Json.str v)
  match check (.obj given) with
  | .ok s => .ok s
  | .error issues => .error (.invalid issues)

end Settings

end Outline
