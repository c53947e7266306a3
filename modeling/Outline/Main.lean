import Outline.CommandLine.Run
import Outline.Record.Clock
import Std.Time.DateTime.Timestamp

/-!
# Program

Reads what a command needs from the system, runs the command, and hands on what it prints, what it
logs and how it ends: 0 when it is done, 1 when it fails, 2 when it is misused.
-/
namespace Outline.CommandLine

def entryOnDisk (path : Text) : IO Entry := do
  try
    let place ← IO.FS.realPath (String.ofList path)
    if ← place.isDir then return .directory
    let bytes ← IO.FS.readBinFile place
    return .file (bytes.toList.map UInt8.toNat)
  catch _ => return .missing

/-- The values in a block of them, each ended by a null character. -/
def variablesOf (block : Text) : List (Text × Text) :=
  (Text.splitAtChar '\x00' block).filterMap fun v =>
    let name := v.takeWhile (· ≠ '=')
    if name.length < v.length then some (name, v.drop (name.length + 1)) else none

def environment : IO (List (Text × Text)) := do
  match ← entryOnDisk "/proc/self/environ".toList with
  | .file bytes =>
    match Utf8.decode bytes with
    | .ok block => return variablesOf block
    | .error _ => return []
  | _ => return []

def surroundings (args : List Text) : IO Surroundings := do
  let values ← environment
  let entries ← (pathsOf values args).mapM fun path => return (path, ← entryOnDisk path)
  let now ← Std.Time.Timestamp.now
  return {
    environment := values
    entry := fun path => (entries.lookup path).getD .missing
    stamp := Record.Clock.stamp (now.toNanosecondsSinceUnixEpoch.val.toNat / 1000) }

/-- Adds a text at the end of a file, whose folder is made if it is not there. -/
def appendOnDisk (path text : Text) : IO Unit := do
  IO.FS.createDirAll (String.ofList (parentPath path))
  IO.FS.withFile (String.ofList path) .append fun file => file.putStr (String.ofList text)

end Outline.CommandLine

/-- Runs the command that the arguments ask for. -/
def main (args : List String) : IO UInt32 := do
  let args := args.map String.toList
  let result := Outline.CommandLine.run (← Outline.CommandLine.surroundings args) args
  if let some (path, text) := result.appended then Outline.CommandLine.appendOnDisk path text
  match result.outcome with
  | .ok output =>
    IO.print (String.ofList output)
    return 0
  | .error (.misused cause) =>
    IO.eprintln (String.ofList cause.message)
    return 2
  | .error (.failed cause) =>
    IO.eprintln (String.ofList cause.message)
    return 1
