import Outline.CommandLine.Arguments
import Outline.Console.Table
import Outline.Log.Level
import Outline.Session.Basic
import Outline.Session.Id
import Outline.Settings.Load
import Outline.Source.Symbols

/-!
# Commands

What a command prints, and what it adds to the log of events. `show` opens an outline with a query
already typed and prints the rows on screen; `filters` prints the letters of kind filters.
-/
namespace Outline.CommandLine

/-- What a command finds around it: the environment, what paths lead to, and the time stamp for
events. -/
structure Surroundings where
  environment : List (Text × Text)
  entry : Text → Entry
  stamp : Text

/-- What can go wrong with a command that is used rightly. -/
inductive Failure
  | settings (cause : LoadFault)
  | unknownLevel (cause : UnknownLevel)
  | unreadable (cause : Utf8.DecodeError)
  | relativePath (path : Text)
  | source (cause : Source.Fault)
  | parentIsFile (path : Text)
  | ancestorIsFile (path : Text)
  | logIsFolder (path : Text)
  | refused (cause : Refusal)
  | noSuchLine (cause : NoSuchLine)

def Failure.message : Failure → Text
  | settings (.invalid issues) =>
    "Bad settings: ".toList ++ Text.join [',', ' '] (issues.map (·.text))
  | settings (.unreadable e) | unreadable e => e.message
  | unknownLevel e => e.message
  | relativePath p => "Not an absolute path: ".toList ++ p
  | source e => e.message
  | parentIsFile p | ancestorIsFile p => "Not a folder but a file: ".toList ++ p
  | logIsFolder p => "Not a file but a folder: ".toList ++ p
  | refused e => e.message
  | noSuchLine e => e.message

/-- Why a command prints nothing. -/
inductive Stop
  | misused (cause : UsageError)
  | failed (cause : Failure)

/-- What a command prints, or why it stops, and the text it adds to a file. -/
structure Result where
  outcome : Except Stop Text
  appended : Option (Text × Text) := none

namespace Surroundings

def settings (w : Surroundings) : Except Stop Settings :=
  match Settings.load w.environment (w.entry (Settings.filePath w.environment)) with
  | .ok s => .ok s
  | .error e => .error (.failed (.settings e))

/-- The paths of the folders above a path, nearest first. -/
def foldersAbove : Nat → Text → List Text
  | 0, _ => []
  | n + 1, path =>
    let parent := parentPath path
    if parent = path ∨ parent = ['.'] then [parent] else parent :: foldersAbove n parent

def checkFolder (w : Surroundings) (path : Text) : Except Stop Unit :=
  match foldersAbove path.length path with
  | [] => .ok ()
  | parent :: above =>
    match w.entry parent with
    | .file _ => .error (.failed (.parentIsFile parent))
    | .directory => .ok ()
    | .missing =>
      match above.find? fun p => w.entry p ≠ .missing with
      | some p => match w.entry p with
        | .file _ => .error (.failed (.ancestorIsFile p))
        | _ => .ok ()
      | none => .ok ()

end Surroundings

def document (w : Surroundings) (path : Text) : Except Stop Document :=
  match w.entry path with
  | .missing => .error (.misused (.noSuchFile path))
  | .directory => .error (.misused (.isDirectory path))
  | .file bytes =>
    match Entry.text bytes with
    | .error e => .error (.failed (.unreadable e))
    | .ok text =>
      if path.head? = some '/' then .ok { text, uri := some ("file://".toList ++ path) }
      else .error (.failed (.relativePath path))

def symbols (path : Text) (d : Document) : Except Stop SymbolForest :=
  match Source.symbols d with
  | .ok forest => .ok forest
  | .error (.malformed .grammar) => .error (.misused (.notSource path))
  | .error e => .error (.failed (.source e))

def printRows (s : Session) : Except NoSuchLine Text := do
  let rows ← s.shownRows.mapM fun r => return [r.label s.settings, ← r.description s.document]
  if rows.isEmpty then return "no matching symbols\n".toList
  else return Table.plain [false, true] rows

/-- The session that `show` opens over a document. -/
def openSession (o : ShowOptions) (settings : Settings) (d : Document) (forest : SymbolForest) :
    Session.Step Unit :=
  let mode := if o.searchesText then .text else settings.defaultMode
  let recorder : Recorder := { sessionId := SessionId.first, settings, listening := true }
  let s := Session.fresh SessionId.first forest d recorder mode
    (({} : Memory).set mode o.query) o.cursor settings
  match s.openOutline with
  | (s, .ok ()) => if o.expandsAll then s.expandAll else (s, .ok ())
  | r => r

/-- What `show` needs before it opens a session. A path that leads to no file is told before bad
settings, and these before what is wrong with the file. -/
def prepare (w : Surroundings) (o : ShowOptions) :
    Except Stop (Settings × Document × SymbolForest) := do
  match document w o.path with
  | .error (.misused e) => throw (.misused e)
  | opened =>
    let settings ← w.settings
    match LogLevel.ofName settings.logLevel with
    | .error e => throw (.failed (.unknownLevel e))
    | .ok _ =>
      let d ← opened
      let forest ← symbols o.path d
      o.events.elim (.ok ()) w.checkFolder
      return (settings, d, forest)

/-- The text that the events of a session add to the log of events. -/
def loggedText (w : Surroundings) (o : ShowOptions) (s : Session) : Option (Text × Text) :=
  o.events.map fun path => (path, LoggedEvent.toLog w.stamp s.recorder.events)

/-- Prints the rows of an opened session, closes it and logs its events. -/
def finish (w : Surroundings) (o : ShowOptions) (s : Session) : Result :=
  match printRows s with
  | .ok output => ⟨.ok output, loggedText w o s.dispose⟩
  | .error e => ⟨.error (.failed (.noSuchLine e)), loggedText w o s⟩

/-- Opens a session and finishes it. What went into the log before a failure stays there. -/
def runSession (w : Surroundings) (o : ShowOptions) (settings : Settings) (d : Document)
    (forest : SymbolForest) : Result :=
  let (s, opened) := openSession o settings d forest
  match if s.recorder.events.isEmpty then none else
      o.events.filter fun path => w.entry path == .directory with
  | some path => { outcome := .error (.failed (.logIsFolder path)) }
  | none =>
    match opened with
    | .error e => ⟨.error (.failed (.refused e)), loggedText w o s⟩
    | .ok () => finish w o s

/-- Runs `show`. -/
def runShow (w : Surroundings) (o : ShowOptions) : Result :=
  match prepare w o with
  | .error e => { outcome := .error e }
  | .ok (settings, d, forest) => runSession w o settings d forest

/-- Prints the letters of kind filters with the kinds they select. -/
def printFilters (s : Settings) : Text :=
  let rows := KindFilter.letters.map fun (letter, kinds) =>
    let names := (Kind.all.filter kinds.contains).map (·.name.toList)
    [s.sentinel ++ [letter], Text.join [',', ' '] names]
  Table.framed "Kind filters".toList ["Token".toList, "Kinds".toList] rows

/-- What `--help` prints. -/
def helpText : Text :=
  ("Usage: show PATH [-q QUERY] [--text] [-c LINE] [--expand-all] [--events PATH]\n" ++
    "       filters\n").toList

def run (w : Surroundings) (args : List Text) : Result :=
  match read args with
  | .error e => { outcome := .error (.misused e) }
  | .ok .help => { outcome := .ok helpText }
  | .ok .filters => { outcome := w.settings.map printFilters }
  | .ok (.show o) => runShow w o

/-- The paths of which a command asks what they lead to. -/
def pathsOf (environment : List (Text × Text)) (args : List Text) : List Text :=
  Settings.filePath environment ::
    match read args with
    | .ok (.show o) =>
      o.path :: (o.events.elim [] fun p => p :: Surroundings.foldersAbove p.length p)
    | _ => []

end Outline.CommandLine
