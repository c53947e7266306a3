import Outline.Search.Basic
import Outline.Session.Recorder
import Outline.Text.Quoted

/-!
# Sessions

A session is one opened outline. The host reports edits of the query field, selections and
commands; the session changes its outline and tells its presentation what to show. Putting the
sentinel in front of a query makes the query field report a change that the session caused itself;
a guard, armed just before, swallows that one report.
-/
namespace Outline

/-- Why a session does not do what it is asked to. -/
inductive Refusal
  | disposed (sessionId : Text)
  | notListed
  | unknownKind (name : Text)
  | aborted (cause : Abort)
  deriving DecidableEq, Repr

namespace Refusal

def message : Refusal → Text
  | disposed id => "outline session ".toList ++ id ++ " has been disposed".toList
  | notListed => "selected node is not part of the current outline".toList
  | unknownKind name => Text.quoted name ++ " is not a valid SymbolKind".toList
  | aborted cause => cause.message.toList

end Refusal

/-- A guard that lets one report pass unheard once it is armed. -/
structure Guard where
  armed : Bool := false
  deriving DecidableEq, Repr

namespace Guard

def arm (_ : Guard) : Guard := ⟨true⟩

/-- Disarms the guard and says whether it was armed. -/
def consume (g : Guard) : Guard × Bool := (⟨false⟩, g.armed)

end Guard

/-- An opened outline over a document, with its presentation. -/
structure Session where
  id : Text
  document : Document
  settings : Settings
  cursor : Int
  search : Search
  recorder : Recorder
  items : List Item := []
  guard : Guard := {}
  active : Option Item := none
  disposed : Bool := false

namespace Session

/-- A step of a session: the session afterwards, and an answer or a refusal. -/
abbrev Step (α : Type) := Session × Except Refusal α

def tree (s : Session) : Tree := s.search.tree

def activeRow (s : Session) : Option Row := s.active.bind (·.row? s.tree)

/-- The rows that the presentation was last told to show, as they are now. -/
def shownRows (s : Session) : List Row := s.recorder.items.filterMap (·.row? s.tree)

/-! ## Showing -/

def highlight (s : Session) (i : Item) : Session :=
  match i.row? s.tree with
  | none => s
  | some row =>
    { s with
      recorder := (s.recorder.reveal row.node.range).decorate
        [s.document.nameRange row.node] }

/-- Lists the rows on screen afresh, gives up a selection that is not among them, and shows them. -/
def publish (s : Session) : Session :=
  let items := Item.listed s.tree
  let active := s.active.filter items.contains
  let s := { s with items, active, recorder := s.recorder.display s.tree items active }
  match active with
  | some i => s.highlight i
  | none => s

/-! ## Queries -/

/-- The items of a session after a query that ended early: the leaves are gone. -/
def outdate (s : Session) (before : Tree) : Session :=
  let outdated := Item.afterClear before
  { s with
    items := s.items.map outdated
    active := s.active.map outdated
    recorder := { s.recorder with
      items := s.recorder.items.map outdated
      active := s.recorder.active.map outdated } }

/-- Hears of a change of the query field and says whether it is to be acted on: the guard swallows
one report. -/
def hear (s : Session) : Session × Bool :=
  let (guard, armed) := s.guard.consume
  ({ s with guard }, !armed)

/-- Lists the rows that a query shows and selects the nearest of them. -/
def settle (s : Session) : Session :=
  let nearest := Navigation.closest s.document s.cursor s.search.queryActive s.tree.visible
  let active := nearest.map fun (row : Row) => Item.present row.path
  { s with items := Item.listed s.tree, active }

/-- How deep the reports of the query field can still be nested: a report that the guard swallows
leads to no other. -/
def reportDepth (s : Session) : Nat := if s.guard.armed then 0 else 1

-- A query is written back from within its own application, and the query field reports that to the
-- session again. Only the guard ends the nesting.
mutual

/-- Applies a query and selects the nearest row that it shows. The query is written back when it
lacked the sentinel, or in any case with `echo`. -/
def applyQuery (s : Session) (text : Text) (echo : Bool) : Step Unit :=
  let before := s.tree.hideAll
  match s.search.apply s.document text with
  | (search, .error cause) => (({ s with search }).outdate before, .error (.aborted cause))
  | (search, .ok outcome) =>
    if echo || outcome.completed then
      match announce { s with search } outcome.text with
      | (s, .error e) => (s, .error e)
      | (s, .ok ()) => (s.settle, .ok ())
    else (({ s with search }).settle, .ok ())
termination_by 3

/-- Writes a query into the query field, with the guard armed against the report of it. -/
def announce (s : Session) (text : Text) : Step Unit :=
  reportQuery { s with guard := s.guard.arm, recorder := s.recorder.setQuery text } text
termination_by 2
decreasing_by simp [reportDepth, Guard.arm]

/-- The query field was changed and reports it to the session if the session listens. -/
def reportQuery (s : Session) (text : Text) : Step Unit :=
  if s.recorder.listening then queryChanged s text else (s, .ok ())
termination_by 4 * s.reportDepth + 1

/-- The host reports a change of the query field. -/
def queryChanged (s : Session) (text : Text) : Step Unit :=
  if s.disposed then (s, .error (.disposed s.id))
  else match _h : s.hear with
    | (heard, false) => (heard, .ok ())
    | (heard, true) =>
      match applyQuery heard text false with
      | (s, .error e) => (s, .error e)
      | (s, .ok ()) => (s.publish, .ok ())
termination_by 4 * s.reportDepth
decreasing_by
  have : s.guard.armed = false := by simpa [hear, Guard.consume] using congrArg Prod.snd _h
  simp [reportDepth, this]

end

/-! ## Opening -/

/-- A session before it is opened. -/
def fresh (id : Text) (forest : SymbolForest) (document : Document) (recorder : Recorder)
    (mode : Mode) (memory : Memory) (cursor : Int) (settings : Settings) : Session :=
  { id, document, settings, cursor, recorder
    search := { mode, memory, sentinel := settings.sentinel, tree := Tree.build forest } }

/-- Opens a session: the query remembered for its mode is applied, and without one the symbol
nearest to the cursor is selected, with the way to it unfolded when symbols are searched. -/
def openOutline (s : Session) : Step Unit :=
  match s.applyQuery (s.search.memory.get s.search.mode) true with
  | (s, .error e) => (s, .error e)
  | (s, .ok ()) =>
    if s.search.queryActive then (s.publish, .ok ())
    else
      let nearest := Navigation.closest s.document s.cursor false s.tree.preorder
      let s := { s with active := nearest.map fun (row : Row) => Item.present row.path }
      let s := match nearest with
        | some row =>
          if s.search.mode = Mode.symbol then
            { s with search := { s.search with tree := s.tree.expandAbove row.path } }
          else s
        | none => s
      (s.publish, .ok ())

/-! ## Host notifications and commands -/

/-- Goes on only while the session is open. -/
def whileOpen {α : Type} (s : Session) (k : Session → Step α) : Step α :=
  if s.disposed then (s, .error (.disposed s.id)) else k s

/-- The user edits the query field. -/
def typeQuery (s : Session) (text : Text) : Step Unit :=
  { s with recorder := s.recorder.typeQuery text }.reportQuery text

/-- Another part of the host sets the query field. -/
def setQuery (s : Session) (text : Text) : Step Unit :=
  { s with recorder := s.recorder.setQuery text }.reportQuery text

/-- The host moves the selection. -/
def select (s : Session) (i : Item) : Step Unit :=
  s.whileOpen fun s =>
    if s.items.contains i then ({ s with active := some i }.highlight i, .ok ())
    else (s, .error .notListed)

def withTree (s : Session) (f : Tree → Tree) : Session :=
  { s with search := { s.search with tree := f s.tree } }.publish

/-- Moves the selection by a rule that may also change the outline. -/
def moveBy (s : Session) (f : Tree → Item → Tree × Item) : Step Unit :=
  s.whileOpen fun s =>
    match s.active with
    | none => (s, .ok ())
    | some i =>
      let (t, i) := f s.tree i
      ({ s with active := some i, search := { s.search with tree := t } }.publish, .ok ())

def expandActive (s : Session) : Step Unit :=
  s.moveBy fun t i => Navigation.expand t s.items i

def collapseActive (s : Session) : Step Unit := s.moveBy Navigation.collapse

def expandAll (s : Session) : Step Unit :=
  s.whileOpen fun s => (s.withTree (Tree.setAllExpanded true), .ok ())

def collapseAll (s : Session) : Step Unit :=
  s.whileOpen fun s => (s.withTree (Tree.setAllExpanded false), .ok ())

/-- Unfolds the ways to all symbols of some kinds. -/
def showAll (s : Session) (kinds : List Kind) : Step Unit :=
  s.whileOpen fun s => (s.withTree (Tree.expandTo (kinds.contains ·.kind)), .ok ())

/-- Unfolds the ways to all symbols of the kinds with the given names. -/
def showAllNamed (s : Session) (names : List Text) : Step Unit :=
  s.whileOpen fun s =>
    match names.find? fun n => (Kind.ofName? n).isNone with
    | some n => (s, .error (.unknownKind n))
    | none => s.showAll (names.filterMap Kind.ofName?)

/-- Moves to the next or previous result, or by one row when nothing is a result. -/
def cycle (s : Session) (d : Direction) : Step (Option Item) :=
  s.whileOpen fun s =>
    let target := (Navigation.cycle s.tree s.items s.active d).or
      (Navigation.step s.items s.active d)
    let s := { s with active := target }.publish
    (s, .ok target)

/-! ## Closing -/

/-- The range that accepting a node reports: the start of the symbol, or the first span of the
line. -/
def targetRange : Node → Range
  | .symbol info _ => Range.empty info.range.start
  | .leaf l _ => Range.empty ⟨l.line.number, (l.hit.spans.head?.map (·.start)).getD 0⟩

/-- Closes the session; closing it again has no effect. -/
def dispose (s : Session) : Session :=
  if s.disposed then s
  else { s with disposed := true, active := none, recorder := (s.recorder.decorate []).close }

/-- Accepts the selection: reports where it is and closes the session. -/
def accept (s : Session) : Step (Option Range) :=
  s.whileOpen fun s =>
    match s.activeRow with
    | none => (s, .ok none)
    | some row =>
      let target := targetRange row.node
      ({ s with recorder := s.recorder.accept target }.dispose, .ok (some target))

end Session

end Outline
