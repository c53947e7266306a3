import Outline.Search.Label
import Outline.Search.Navigation
import Outline.Session.Event

/-!
# Recorder

The presentation of a session that keeps what it was last told and every call as an event. When
a listener is bound, it hears of every change of the query field, also of those that the session
makes itself.
-/
namespace Outline

/-- A presentation that records its calls. -/
structure Recorder where
  sessionId : Text := ['-']
  settings : Settings := {}
  events : List Event := []
  items : List Item := []
  active : Option Item := none
  queryText : Option Text := none
  decorations : List Range := []
  accepted : Option Range := none
  closed : Bool := false
  listening : Bool := false

namespace Recorder

def record (r : Recorder) (c : Call) : Recorder :=
  { r with events := r.events ++ [⟨r.sessionId, r.events.length + 1, c⟩] }

def bind (r : Recorder) : Recorder := { r with listening := true }

/-- The query field now holds a text; a bound listener is to hear of it. -/
def typeQuery (r : Recorder) (text : Text) : Recorder := { r with queryText := some text }

/-- Sets the query field, which counts as a change of it. -/
def setQuery (r : Recorder) (text : Text) : Recorder := (r.record (.setQuery text)).typeQuery text

def labels (settings : Settings) (t : Tree) (items : List Item) : List Text :=
  items.filterMap fun i => (i.row? t).map (Row.label settings)

/-- Shows rows of an outline. -/
def display (r : Recorder) (t : Tree) (items : List Item) (active : Option Item) : Recorder :=
  { r with items, active }.record
    (.show (labels r.settings t items)
      (active.bind fun i => (i.row? t).map (Row.label r.settings)))

def reveal (r : Recorder) (range : Range) : Recorder := r.record (.reveal range)

def decorate (r : Recorder) (ranges : List Range) : Recorder :=
  { r with decorations := ranges }.record (.decorate ranges)

/-- Takes the accepted range. -/
def accept (r : Recorder) (target : Range) : Recorder :=
  { r with accepted := some target }.record (.accept target)

def close (r : Recorder) : Recorder := { r with closed := true }.record .close

def ofType (r : Recorder) (t : EventType) : List Event := r.events.filter (·.call.type == t)

end Recorder

end Outline
