import Outline.Json.Reader
import Outline.Json.Writer
import Outline.Record.Shapes
import Outline.Record.Timestamp
import Outline.Text.LineBreak
import Outline.Text.Quoted

/-!
# Events

Every call that a session makes on its presentation is an event. Events are numbered from one and
logged one per line as JSON; a log is read back line by line, and the first line that is no event
decides.
-/
namespace Outline

/-- The kinds of presentation calls. -/
inductive EventType
  | show
  | setQuery
  | reveal
  | decorate
  | accept
  | close
  deriving DecidableEq, Repr

namespace EventType

def all : List EventType := [.show, setQuery, reveal, decorate, accept, close]

def name : EventType → String
  | .show => "show"
  | setQuery => "set_query"
  | reveal => "reveal"
  | decorate => "decorate"
  | accept => "accept"
  | close => "close"

def ofName? (t : Text) : Option EventType := all.find? (·.name.toList == t)

end EventType

/-- A name that no kind of call has. -/
structure UnknownEventType where
  name : Text
  deriving DecidableEq, Repr

def UnknownEventType.message (e : UnknownEventType) : Text :=
  Text.quoted e.name ++ " is not a valid EventType".toList

/-- The kind of call with a name, or the error that there is none. -/
def EventType.ofName (t : Text) : Except UnknownEventType EventType :=
  match ofName? t with
  | some e => .ok e
  | none => .error ⟨t⟩

/-- A presentation call with what it carries: the labels shown and that of the active row, the
query, the ranges. -/
inductive Call
  | show (items : List Text) (active : Option Text)
  | setQuery (text : Text)
  | reveal (range : Range)
  | decorate (ranges : List Range)
  | accept (target : Range)
  | close
  deriving DecidableEq, Repr

namespace Call

def type : Call → EventType
  | .show .. => .show
  | setQuery _ => .setQuery
  | reveal _ => .reveal
  | decorate _ => .decorate
  | accept _ => .accept
  | close => .close

def data : Call → Json
  | .show items active =>
    Json.mkObj [("items", .arr (items.map .str)), ("active", Json.ofOption .str active)]
  | setQuery t => .str t
  | reveal r => r.toJson
  | decorate rs => .arr (rs.map Range.toJson)
  | accept r => r.toJson
  | close => .null

end Call

/-- A numbered presentation call of a session. -/
structure Event where
  sessionId : Text
  seq : Nat
  call : Call
  deriving DecidableEq, Repr

/-- An event as a log holds it. -/
structure LoggedEvent where
  sessionId : Text
  seq : Nat
  type : EventType
  data : Json
  deriving Repr

namespace LoggedEvent

def ofEvent (e : Event) : LoggedEvent := ⟨e.sessionId, e.seq, e.call.type, e.call.data⟩

/-- Writes an event with its time stamp as one line of a log, without the line end. -/
def toLine (stamp : Text) (e : LoggedEvent) : Text :=
  (Json.mkObj [("session_id", .str e.sessionId), ("seq", .ofNat e.seq), ("ts", .str stamp),
    ("event_type", .ofString e.type.name), ("data", e.data)]).render

def checkType : Record.Check EventType
  | .str t => match EventType.ofName? t with
    | some e => .ok e
    | none => Record.fail .enum
  | _ => Record.fail .enum

/-- Reads what a call carries: a text, an object, a list or nothing. -/
def checkData : Record.Check Json
  | .null => .ok .null
  | .str t => .ok (.str t)
  | .arr items => .ok (.arr items)
  | .obj fields => .ok (.obj fields)
  | _ => .error [⟨["str".toList], .stringType⟩, ⟨["dict[any,any]".toList], .dictType⟩,
      ⟨["list[any]".toList], .listType⟩]

def check : Record.Check LoggedEvent := Record.record fun j =>
  ((Record.field "session_id" Record.text j).both
    ((Record.field "seq" (Record.intAtLeast 1) j).both
      ((Record.fieldOr "ts" () Record.Timestamp.check j).both
        ((Record.field "event_type" checkType j).both
          (Record.fieldOr "data" .null checkData j))))).map
    fun (s, n, _, t, d) => ⟨s, n, t, d⟩

/-- How deep the values of a line may be nested. -/
def maxDepth : Nat := 200

def ofLine (line : Text) : Record.Checked LoggedEvent :=
  match Json.read? maxDepth line with
  | some j => check j
  | none => Record.fail .jsonInvalid

/-- Reads the lines of a log; blank ones are skipped. -/
def ofLines : List Text → Record.Checked (List LoggedEvent)
  | [] => .ok []
  | line :: rest =>
    let line := line.trim
    if line.isEmpty then ofLines rest
    else do
      let e ← ofLine line
      return e :: (← ofLines rest)

/-- Reads a log. Lines end at every Unicode line boundary. -/
def ofLog (log : Text) : Record.Checked (List LoggedEvent) := ofLines log.lines

def toLog (stamp : Text) (events : List Event) : Text :=
  events.flatMap fun e => (ofEvent e).toLine stamp ++ ['\n']

end LoggedEvent

end Outline
