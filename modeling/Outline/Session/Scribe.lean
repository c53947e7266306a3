import Outline.Session.Recorder
import Outline.Storage.Folder

/-!
# Scribe

A recorder that adds every event to the end of a file when it is recorded, each with the time stamp
of its moment, and the events that are read back from such a file.
-/
namespace Outline

/-- What is told to a presentation. -/
inductive Telling
  | bind
  | typeQuery (text : Text)
  | setQuery (text : Text)
  | display (tree : Tree) (items : List Item) (active : Option Item)
  | reveal (range : Range)
  | decorate (ranges : List Range)
  | accept (target : Range)
  | close

def Recorder.tell (r : Recorder) : Telling → Recorder
  | .bind => r.bind
  | .typeQuery text => r.typeQuery text
  | .setQuery text => r.setQuery text
  | .display tree items active => r.display tree items active
  | .reveal range => r.reveal range
  | .decorate ranges => r.decorate ranges
  | .accept target => r.accept target
  | .close => r.close

/-- Why no events are read from a file. -/
inductive LogFault
  | isFolder
  | unreadable (cause : Utf8.DecodeError)
  | invalid (issues : List Record.Issue)

/-- The events logged in a file; a file that is not there holds none. -/
def Folder.events (f : Folder) (path : Text) : Except LogFault (List LoggedEvent) :=
  match f.entry path with
  | .missing => .ok []
  | .directory => .error .isFolder
  | .file bytes =>
    match Entry.text bytes with
    | .error e => .error (.unreadable e)
    | .ok log => (LoggedEvent.ofLog log).mapError .invalid

/-- A recorder with the file for its events. -/
structure Scribe where
  recorder : Recorder
  folder : Folder
  path : Text

namespace Scribe

def write (s : Scribe) (stamp : Text) (e : Event) : Scribe :=
  { s with folder := s.folder.append s.path (LoggedEvent.toLog stamp [e]) }

/-- Tells the recorder something and writes down what it recorded. -/
def tell (s : Scribe) (stamp : Text) (t : Telling) : Scribe :=
  let recorder := s.recorder.tell t
  (recorder.events.drop s.recorder.events.length).foldl (fun s e => s.write stamp e)
    { s with recorder }

/-- Tells the recorder one thing after another, each at its moment. -/
def run (s : Scribe) (tellings : List (Text × Telling)) : Scribe :=
  tellings.foldl (fun s (stamp, t) => s.tell stamp t) s

def readBack (s : Scribe) : Except LogFault (List LoggedEvent) := s.folder.events s.path

end Scribe

end Outline
