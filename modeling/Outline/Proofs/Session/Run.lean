import Outline.Proofs.Search.Apply
import Outline.Session.Basic

/-!
# Runs of a session

What a host can do to a session, and what a session does then. A query is written back from within
its own application; here the nesting is undone: the report of it is swallowed at once
(`announce_open`), so that a query is one pass of the search and one listing (`queryChanged_ok`).
`Does` has one constructor for each way a call goes, and what a run keeps is shown from it
(`does_perform`, `run_induct`).
-/
namespace Outline

/-- A recorder after it was pointed at a range and at a name in it. -/
def Recorder.pointAt (r : Recorder) : Option (Range × Range) → Recorder
  | none => r
  | some (range, name) => (r.reveal range).decorate [name]

namespace Recorder

variable (r : Recorder) (p : Option (Range × Range))

@[simp] theorem items_pointAt : (r.pointAt p).items = r.items := by cases p <;> rfl

@[simp] theorem active_pointAt : (r.pointAt p).active = r.active := by cases p <;> rfl

@[simp] theorem queryText_pointAt : (r.pointAt p).queryText = r.queryText := by cases p <;> rfl

@[simp] theorem listening_pointAt : (r.pointAt p).listening = r.listening := by cases p <;> rfl

end Recorder

namespace Session

/-! ## Showing -/

/-- The range of an item and the range of its name. -/
def ranges? (s : Session) (i : Item) : Option (Range × Range) :=
  (i.row? s.tree).map fun row => (row.node.range, s.document.nameRange row.node)

theorem highlight_eq (s : Session) (i : Item) :
    s.highlight i = { s with recorder := s.recorder.pointAt (s.ranges? i) } := by
  unfold highlight ranges?
  cases i.row? s.tree <;> rfl

theorem publish_eq (s : Session) :
    s.publish =
      let active := s.active.filter (Item.listed s.tree).contains
      { s with
        items := Item.listed s.tree
        active
        recorder :=
          (s.recorder.display s.tree (Item.listed s.tree) active).pointAt
            (active.bind s.ranges?) } := by
  unfold publish
  dsimp only
  split
  · rename_i i h
    rw [highlight_eq, h]
    rfl
  · rename_i h
    rw [h]
    rfl

@[simp] theorem search_publish (s : Session) : s.publish.search = s.search := by rw [publish_eq]

@[simp] theorem guard_publish (s : Session) : s.publish.guard = s.guard := by rw [publish_eq]

@[simp] theorem disposed_publish (s : Session) : s.publish.disposed = s.disposed := by
  rw [publish_eq]

@[simp] theorem queryText_publish (s : Session) :
    s.publish.recorder.queryText = s.recorder.queryText := by
  rw [publish_eq]
  exact Recorder.queryText_pointAt _ _

@[simp] theorem listening_publish (s : Session) :
    s.publish.recorder.listening = s.recorder.listening := by
  rw [publish_eq]
  exact Recorder.listening_pointAt _ _

/-! ## Open and closed sessions -/

theorem whileOpen_open {α : Type} {s : Session} (hd : s.disposed = false) (k : Session → Step α) :
    s.whileOpen k = k s := by
  rw [whileOpen, if_neg (by simp [hd])]

theorem whileOpen_closed {α : Type} {s : Session} (hd : s.disposed = true) (k : Session → Step α) :
    s.whileOpen k = (s, .error (.disposed s.id)) := by
  rw [whileOpen, if_pos hd]

/-- A session closed over a recorder. -/
def closedOver (s : Session) (r : Recorder) : Session :=
  { s with disposed := true, active := none, recorder := (r.decorate []).close }

theorem dispose_over_open {s : Session} (hd : s.disposed = false) (r : Recorder) :
    ({ s with recorder := r } : Session).dispose = s.closedOver r := by
  rw [dispose, if_neg (by simp [hd])]
  rfl

theorem dispose_open {s : Session} (hd : s.disposed = false) :
    s.dispose = s.closedOver s.recorder :=
  dispose_over_open hd s.recorder

theorem dispose_closed {s : Session} (hd : s.disposed = true) : s.dispose = s := by
  rw [dispose, if_pos hd]

/-! ## Queries -/

/-- The session after a text was written into the query field and the report of that was heard. -/
def written (s : Session) (text : Text) : Session :=
  { s with guard := ⟨!s.recorder.listening⟩, recorder := s.recorder.setQuery text }

/-- A report is swallowed by an armed guard. -/
theorem queryChanged_armed {s : Session} (hd : s.disposed = false) (ha : s.guard.armed = true)
    (text : Text) : s.queryChanged text = ({ s with guard := {} }, .ok ()) := by
  have hh : s.hear = ({ s with guard := {} }, false) := by
    simp only [hear, Guard.consume, ha, Bool.not_true]
  rw [queryChanged, if_neg (by simp [hd])]
  split
  · rename_i h
    rw [hh] at h
    cases h; rfl
  · rename_i h
    rw [hh] at h
    cases h

theorem announce_open {s : Session} (hd : s.disposed = false) (text : Text) :
    s.announce text = (s.written text, .ok ()) := by
  have hlisten : (s.recorder.setQuery text).listening = s.recorder.listening := rfl
  rw [announce, reportQuery, written, hlisten]
  cases s.recorder.listening with
  | false => rfl
  | true =>
    have harmed := queryChanged_armed
      (s := { s with guard := s.guard.arm, recorder := s.recorder.setQuery text }) hd rfl text
    rw [if_pos rfl, harmed]
    rfl

/-- A session after a query that did not end early: with the text in the query field if it was
written there, and with the rows that the query shows. -/
def answered (s : Session) (search : Search) (o : Outcome) (echo : Bool) : Session :=
  let s := { s with search }
  (if echo || o.completed then s.written o.text else s).settle

section

variable (s : Session) (search : Search) (o : Outcome) (echo : Bool)

@[simp] theorem search_answered : (s.answered search o echo).search = search := by
  rw [answered]
  split <;> rfl

@[simp] theorem disposed_answered : (s.answered search o echo).disposed = s.disposed := by
  rw [answered]
  split <;> rfl

@[simp] theorem listening_answered :
    (s.answered search o echo).recorder.listening = s.recorder.listening := by
  rw [answered]
  split <;> rfl

end

theorem applyQuery_ok {s : Session} (hd : s.disposed = false) {text : Text} {search : Search}
    {o : Outcome} (h : s.search.apply s.document text = (search, .ok o)) (echo : Bool) :
    s.applyQuery text echo = (s.answered search o echo, .ok ()) := by
  rw [applyQuery, h, answered]
  dsimp only
  split
  · rw [announce_open (s := { s with search }) hd]
  · rfl

def broken (s : Session) (search : Search) : Session := ({ s with search }).outdate s.tree.hideAll

theorem applyQuery_error {s : Session} {text : Text} {search : Search} {cause : Abort}
    (h : s.search.apply s.document text = (search, .error cause)) (echo : Bool) :
    s.applyQuery text echo = (s.broken search, .error (.aborted cause)) := by
  rw [applyQuery, h]
  rfl

/-- An unarmed guard lets a report through to the search. -/
theorem queryChanged_unarmed {s : Session} (hd : s.disposed = false) (ha : s.guard.armed = false)
    (text : Text) :
    s.queryChanged text =
      match s.applyQuery text false with
      | (s, .error e) => (s, .error e)
      | (s, .ok ()) => (s.publish, .ok ()) := by
  have hg : s.guard = ⟨false⟩ := by rw [← ha]
  have hh : s.hear = (s, true) := by
    rw [hear, Guard.consume, ha, ← hg]
    rfl
  rw [queryChanged, if_neg (by simp [hd])]
  split
  · rename_i h
    rw [hh] at h
    cases h
  · rename_i h
    rw [hh] at h
    cases h
    rfl

/-- What a report that the guard lets through comes to. -/
theorem queryChanged_ok {s : Session} (hd : s.disposed = false) (ha : s.guard.armed = false)
    {text : Text} {search : Search} {o : Outcome}
    (h : s.search.apply s.document text = (search, .ok o)) :
    s.queryChanged text = ((s.answered search o false).publish, .ok ()) := by
  rw [queryChanged_unarmed hd ha, applyQuery_ok hd h]

theorem queryChanged_error {s : Session} (hd : s.disposed = false) (ha : s.guard.armed = false)
    {text : Text} {search : Search} {cause : Abort}
    (h : s.search.apply s.document text = (search, .error cause)) :
    s.queryChanged text = (s.broken search, .error (.aborted cause)) := by
  rw [queryChanged_unarmed hd ha, applyQuery_error h]

theorem queryChanged_disposed {s : Session} (hd : s.disposed = true) (text : Text) :
    s.queryChanged text = (s, .error (.disposed s.id)) := by
  rw [queryChanged, if_pos hd]

/-! ## Opening -/

/-- The session with another outline and another selection, shown. -/
def redrawn (s : Session) (tree : Tree) (active : Option Item) : Session :=
  { s with active, search := { s.search with tree } }.publish

theorem openOutline_error {s : Session} {search : Search} {cause : Abort}
    (h : s.search.apply s.document (s.search.memory.get s.search.mode) = (search, .error cause)) :
    s.openOutline = (s.broken search, .error (.aborted cause)) := by
  rw [openOutline, applyQuery_error h]

/-- A session opens with the query remembered, whatever is selected and unfolded then. -/
theorem openOutline_ok {s : Session} (hd : s.disposed = false) {search : Search} {o : Outcome}
    (h : s.search.apply s.document (s.search.memory.get s.search.mode) = (search, .ok o)) :
    ∃ tree active, s.openOutline = ((s.answered search o true).redrawn tree active, .ok ()) := by
  rw [openOutline, applyQuery_ok hd h]
  dsimp only
  split
  · exact ⟨_, _, rfl⟩
  · split
    · split
      · exact ⟨_, _, rfl⟩
      · exact ⟨_, _, rfl⟩
    · exact ⟨_, _, rfl⟩

/-- What an outline is opened with, and the recorder that it is shown by. -/
structure Opening where
  id : Text
  forest : SymbolForest
  document : Document
  mode : Mode
  memory : Memory
  cursor : Int
  settings : Settings
  recorderId : Text
  recorderSettings : Settings

namespace Opening

/-- The session before it is opened, over a new recorder that reports to it. -/
def unopened (o : Opening) : Session :=
  fresh o.id o.forest o.document
    (Recorder.bind { sessionId := o.recorderId, settings := o.recorderSettings })
    o.mode o.memory o.cursor o.settings

def session (o : Opening) : Session := o.unopened.openOutline.1

end Opening

/-- What holds of a session that could not apply the query remembered, and of every session shown
after that query, holds of a session as it is opened. -/
theorem Opening.induct {P : Session → Prop} (o : Opening)
    (he : ∀ search cause, o.unopened.search.apply o.unopened.document
      (o.unopened.search.memory.get o.unopened.search.mode) = (search, .error cause) →
        P (o.unopened.broken search))
    (ho : ∀ search outcome tree active, o.unopened.search.apply o.unopened.document
      (o.unopened.search.memory.get o.unopened.search.mode) = (search, .ok outcome) →
        P ((o.unopened.answered search outcome true).redrawn tree active)) :
    P o.session := by
  have hd : o.unopened.disposed = false := rfl
  rw [session]
  match h : o.unopened.search.apply o.unopened.document
      (o.unopened.search.memory.get o.unopened.search.mode) with
  | (search, .error cause) =>
    rw [openOutline_error h]
    exact he search cause h
  | (search, .ok outcome) =>
    obtain ⟨tree, active, hs⟩ := openOutline_ok hd h
    rw [hs]
    exact ho search outcome tree active h

/-! ## Calls -/

/-- What a host can do to a session. -/
inductive Operation
  | type (text : Text)
  | changed (text : Text)
  | select (item : Item)
  | expandActive
  | collapseActive
  | expandAll
  | collapseAll
  | showAll (kinds : List Kind)
  | cycle (direction : Direction)
  | accept
  | dispose
  | arm
  | consume
  deriving DecidableEq

/-- A step without its answer. -/
def Step.quiet {α : Type} (r : Step α) : Step Unit := (r.1, r.2.map fun _ => ())

/-- One call, whatever it answers. -/
def perform (s : Session) : Operation → Step Unit
  | .type text => s.typeQuery text
  | .changed text => s.queryChanged text
  | .select i => s.select i
  | .expandActive => s.expandActive
  | .collapseActive => s.collapseActive
  | .expandAll => s.expandAll
  | .collapseAll => s.collapseAll
  | .showAll kinds => s.showAll kinds
  | .cycle d => (s.cycle d).quiet
  | .accept => s.accept.quiet
  | .dispose => (s.dispose, .ok ())
  | .arm => ({ s with guard := s.guard.arm }, .ok ())
  | .consume => ({ s with guard := s.guard.consume.1 }, .ok ())

def run (s : Session) (ops : List Operation) : Session := ops.foldl (fun s op => (s.perform op).1) s

def Operation.edit? : Operation → Option Text
  | type text | changed text => some text
  | _ => none

/-- The session that a call meets: an edit by the user has changed the query field by then. -/
def met (s : Session) : Operation → Session
  | .type text => { s with recorder := s.recorder.typeQuery text }
  | _ => s

/-- A session that listens hears of an edit with the text in the query field already. -/
theorem typeQuery_listening {s : Session} (hl : s.recorder.listening = true) (text : Text) :
    s.typeQuery text = (s.met (.type text)).queryChanged text := by
  have hheard : { s with recorder := s.recorder.typeQuery text }.recorder.listening = true := hl
  rw [typeQuery, reportQuery, if_pos hheard]
  rfl

/-- How a call goes. -/
inductive Does (s : Session) : Operation → Step Unit → Prop
  | refused {op} (e : Refusal) (he : ∀ cause, e ≠ .aborted cause) : Does s op (s, .error e)
  | nothing {op} : Does s op (s, .ok ())
  | hushed {op} : Does s op ({ s with guard := {} }, .ok ())
  | armed : Does s .arm ({ s with guard := ⟨true⟩ }, .ok ())
  | broken {op text search cause} (hd : s.disposed = false) (ho : op.edit? = some text)
    (h : s.search.apply s.document text = (search, .error cause)) :
    Does s op (s.broken search, .error (.aborted cause))
  | answered {op text search o} (hd : s.disposed = false) (ho : op.edit? = some text)
    (h : s.search.apply s.document text = (search, .ok o)) :
    Does s op ((s.answered search o false).publish, .ok ())
  | redrawn {op} (tree : Tree) (active : Option Item) (hd : s.disposed = false) :
    Does s op (s.redrawn tree active, .ok ())
  | pointed {i} (hd : s.disposed = false) (hi : i ∈ s.items) :
    Does s (.select i) ({ s with active := some i }.highlight i, .ok ())
  | accepted {row} (hd : s.disposed = false) (hr : s.activeRow = some row) :
    Does s .accept (s.closedOver (s.recorder.accept (targetRange row.node)), .ok ())
  | closed (hd : s.disposed = false) : Does s .dispose (s.closedOver s.recorder, .ok ())

theorem does_queryChanged (s : Session) {op : Operation} {text : Text} (ho : op.edit? = some text) :
    Does s op (s.queryChanged text) := by
  cases hd : s.disposed with
  | true => rw [queryChanged_disposed hd]; exact .refused _ nofun
  | false =>
    cases ha : s.guard.armed with
    | true => rw [queryChanged_armed hd ha]; exact .hushed
    | false =>
      match h : s.search.apply s.document text with
      | (search, .error cause) => rw [queryChanged_error hd ha h]; exact .broken hd ho h
      | (search, .ok o) => rw [queryChanged_ok hd ha h]; exact .answered hd ho h

/-- What is done only while a session is open is refused by a closed one. -/
theorem does_whileOpen {s : Session} {op : Operation} {k : Session → Step Unit}
    (h : s.disposed = false → Does s op (k s)) : Does s op (s.whileOpen k) := by
  cases hd : s.disposed with
  | true =>
    rw [whileOpen_closed hd]
    exact .refused _ nofun
  | false =>
    rw [whileOpen_open hd]
    exact h hd

theorem does_moveBy (s : Session) (op : Operation) (f : Tree → Item → Tree × Item) :
    Does s op (s.moveBy f) := by
  refine does_whileOpen fun hd => ?_
  split
  · exact .nothing
  · exact .redrawn _ _ hd

theorem quiet_whileOpen {α : Type} (s : Session) (k : Session → Step α) :
    (s.whileOpen k).quiet = s.whileOpen fun s => (k s).quiet := by
  unfold whileOpen
  split <;> rfl

/-- Every call goes one of the ways that `Does` lists. -/
theorem does_perform (s : Session) (op : Operation) : Does (s.met op) op (s.perform op) := by
  cases op with
  | type text =>
    rw [perform, typeQuery, reportQuery]
    split
    · exact does_queryChanged _ rfl
    · exact .nothing
  | changed text => exact does_queryChanged s rfl
  | select i =>
    rw [perform, select]
    refine does_whileOpen fun hd => ?_
    split
    · rename_i hi
      exact .pointed hd (by simpa using hi)
    · exact .refused _ nofun
  | expandActive => rw [perform, expandActive]; exact does_moveBy s _ _
  | collapseActive => rw [perform, collapseActive]; exact does_moveBy s _ _
  | expandAll => rw [perform, expandAll]; exact does_whileOpen fun hd => .redrawn _ s.active hd
  | collapseAll => rw [perform, collapseAll]; exact does_whileOpen fun hd => .redrawn _ s.active hd
  | showAll kinds => rw [perform, showAll]; exact does_whileOpen fun hd => .redrawn _ s.active hd
  | cycle d =>
    rw [perform, cycle, quiet_whileOpen]
    exact does_whileOpen fun hd => .redrawn s.tree _ hd
  | accept =>
    rw [perform, accept, quiet_whileOpen]
    refine does_whileOpen fun hd => ?_
    split
    · exact .nothing
    · rename_i row hr
      dsimp only [Step.quiet]
      rw [dispose_over_open hd]
      exact .accepted hd hr
  | dispose =>
    cases hd : s.disposed with
    | true =>
      rw [perform, dispose_closed hd]
      exact .nothing
    | false =>
      rw [perform, dispose_open hd]
      exact .closed hd
  | arm => exact .armed
  | consume => exact .hushed

/-- An edit that the guard lets through and that raises nothing is one search for its text and one
listing of an open session. -/
theorem edit_ok {s : Session} (hl : s.recorder.listening = true) (ha : s.guard.armed = false)
    {op : Operation} {text : Text} (ho : op.edit? = some text) (hok : (s.perform op).2 = .ok ()) :
    ∃ search outcome, (s.met op).search.apply (s.met op).document text = (search, .ok outcome) ∧
      (s.met op).disposed = false ∧
      (s.perform op).1 = ((s.met op).answered search outcome false).publish := by
  have hheard : s.perform op = (s.met op).queryChanged text := by
    cases op with
    | type text =>
      cases ho
      exact typeQuery_listening hl text
    | changed text =>
      cases ho
      rfl
    | select | expandActive | collapseActive | expandAll | collapseAll | showAll | cycle | accept
    | dispose | arm | consume => cases ho
  have hma : (s.met op).guard.armed = false := by cases op <;> exact ha
  rw [hheard] at hok ⊢
  cases hd : (s.met op).disposed with
  | true =>
    rw [queryChanged_disposed hd] at hok
    cases hok
  | false =>
    rcases h : (s.met op).search.apply (s.met op).document text with ⟨search, cause | outcome⟩
    · rw [queryChanged_error hd hma h] at hok
      cases hok
    · exact ⟨search, outcome, rfl, rfl, by rw [queryChanged_ok hd hma h]⟩

/-- What every call keeps, a run keeps. -/
theorem run_induct {P : Session → Prop} {s : Session} (ops : List Operation)
    (hs : ∀ op ∈ ops, ∀ s, P s → P (s.perform op).1) (h : P s) : P (s.run ops) := by
  induction ops generalizing s with
  | nil => exact h
  | cons op ops ih =>
    exact ih (fun op' ho => hs op' (List.mem_cons_of_mem _ ho)) (hs op (List.mem_cons_self ..) s h)

theorem run_append (s : Session) (ops ops' : List Operation) :
    s.run (ops ++ ops') = (s.run ops).run ops' := List.foldl_append ..

/-! ## An outline to open -/

/-- The sample outline as it is opened to search its names. -/
def sample : Opening where
  id := "qo_0001".toList
  forest := Search.sampleForest
  document := Search.sampleDocument
  mode := .symbol
  memory := {}
  cursor := 0
  settings := {}
  recorderId := ['-']
  recorderSettings := {}

end Session

end Outline
