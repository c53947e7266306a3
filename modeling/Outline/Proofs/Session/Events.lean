import Outline.Proofs.Session.Run

/-!
# Events in order

What a session tells its presentation comes in groups: a query written back, a listing with a
pointer to the selection behind it, a pointer alone, and the closing (`Log`). Every call adds whole
groups, numbered on from what was recorded before, and nothing is added to a closed log
(`logged_perform`). `events_in_order` reads off what may follow what, and that a closed session
refuses everything without a trace.
-/
namespace Outline

namespace Recorder

/-- The calls recorded. -/
def calls (r : Recorder) : List Call := r.events.map (·.call)

/-- The events are numbered from one on. -/
def Numbered (r : Recorder) : Prop := ∀ i e, r.events[i]? = some e → e.seq = i + 1

/-- The second recorder has recorded some calls more than the first. -/
structure Adds (r : Recorder) (cs : List Call) (r' : Recorder) : Prop where
  calls : r'.calls = r.calls ++ cs
  numbered : r.Numbered → r'.Numbered

theorem Adds.of_events {r r' : Recorder} (h : r'.events = r.events) : r.Adds [] r' := by
  constructor
  · rw [Recorder.calls, h, List.append_nil]
    rfl
  · intro hn i e he
    exact hn i e (h ▸ he)

theorem Adds.trans {r r' r'' : Recorder} {cs ds : List Call} (h : r.Adds cs r')
    (h' : r'.Adds ds r'') : r.Adds (cs ++ ds) r'' :=
  ⟨by rw [h'.calls, h.calls, List.append_assoc], fun hn => h'.numbered (h.numbered hn)⟩

theorem adds_record (r : Recorder) (c : Call) : r.Adds [c] (r.record c) := by
  constructor
  · simp [Recorder.calls, record]
  · intro hn i e he
    simp only [record, List.getElem?_append] at he
    split at he
    · exact hn i e he
    · obtain ⟨hi, rfl⟩ := List.getElem?_eq_some_iff.mp he
      simp only [List.length_singleton] at hi
      simp
      omega

theorem adds_setQuery (r : Recorder) (text : Text) : r.Adds [.setQuery text] (r.setQuery text) :=
  ⟨(r.adds_record _).calls, (r.adds_record _).numbered⟩

theorem adds_display (r : Recorder) (t : Tree) (items : List Item) (active : Option Item) :
    r.Adds [.show (labels r.settings t items)
      (active.bind fun i => (i.row? t).map (Row.label r.settings))] (r.display t items active) :=
  have h := adds_record { r with items, active } _
  ⟨h.calls, h.numbered⟩

theorem adds_reveal_decorate (r : Recorder) (range name : Range) :
    r.Adds [.reveal range, .decorate [name]] ((r.reveal range).decorate [name]) :=
  have h := (adds_record r (.reveal range)).trans (adds_record _ (.decorate [name]))
  ⟨h.calls, h.numbered⟩

theorem adds_close (r : Recorder) : r.Adds [.decorate [], .close] (r.decorate []).close :=
  have h := (adds_record r (.decorate [])).trans (adds_record _ .close)
  ⟨h.calls, h.numbered⟩

theorem adds_accept (r : Recorder) (target : Range) :
    r.Adds [.accept target, .decorate [], .close] ((r.accept target).decorate []).close :=
  have h := (adds_record { r with accepted := some target } (.accept target)).trans (adds_close _)
  ⟨h.calls, h.numbered⟩

end Recorder

/-! ## Groups of calls -/

/-- The calls that list rows and point at the active one. -/
def Call.listing (labels : List Text) : Option (Text × Range × Range) → List Call
  | none => [.show labels none]
  | some (label, range, name) => [.show labels (some label), .reveal range, .decorate [name]]

/-- A log of calls in groups; the closing ends it. -/
inductive Log : Bool → List Call → Prop
  | nil : Log false []
  | closing : Log true [.decorate [], .close]
  | accepting (target) : Log true [.accept target, .decorate [], .close]
  | query {b cs} (text) (h : Log b cs) : Log b (.setQuery text :: cs)
  | listing {b cs} (labels active) (h : Log b cs) : Log b (Call.listing labels active ++ cs)
  | pointing {b cs} (range name) (h : Log b cs) : Log b (.reveal range :: .decorate [name] :: cs)

theorem Log.append {b : Bool} {cs ds : List Call} (h : Log false cs) (h' : Log b ds) :
    Log b (cs ++ ds) := by
  generalize hc : false = c at h
  induction h with
  | nil => exact h'
  | closing | accepting => cases hc
  | query text _ ih => exact .query text (ih hc)
  | listing labels active _ ih =>
    rw [List.append_assoc]
    exact .listing labels active (ih hc)
  | pointing range name _ ih => exact .pointing range name (ih hc)

/-- What stands around a call of a log. -/
structure Call.Around (b : Bool) (before : List Call) (c : Call) (after : List Call) : Prop where
  shown : ∀ labels label, c = .show labels (some label) → ∃ r rest, after = .reveal r :: rest
  revealed : ∀ r, c = .reveal r → ∃ name rest, after = .decorate [name] :: rest
  closed : c = .close → b = true ∧ after = [] ∧ ∃ rest, before = rest ++ [.decorate []]

/-- Every call has around it what is to be there. -/
def Call.Orderly (b : Bool) (cs : List Call) : Prop :=
  ∀ before c after, cs = before ++ c :: after → Call.Around b before c after

theorem Call.Orderly.cons {b : Bool} {cs : List Call} (h : Call.Orderly b cs) {x : Call}
    (hx : Call.Around b [] x cs) : Call.Orderly b (x :: cs) := by
  intro before c after hc
  obtain ⟨rfl, hc⟩ | ⟨before, rfl, rfl⟩ := List.cons_eq_append_iff.mp hc
  · cases hc
    exact hx
  · obtain ⟨hs, hr, hclose⟩ := h before c after rfl
    refine ⟨hs, hr, fun e => ?_⟩
    obtain ⟨hb, ha, rest, rfl⟩ := hclose e
    exact ⟨hb, ha, x :: rest, rfl⟩

theorem Call.orderly_closing : Call.Orderly true [.decorate [], .close] := by
  intro before c after hc
  match before with
  | [] =>
    cases hc
    exact ⟨nofun, nofun, nofun⟩
  | [x] =>
    cases hc
    exact ⟨nofun, nofun, fun _ => ⟨rfl, rfl, [], rfl⟩⟩
  | x :: y :: before => simpa using congrArg List.length hc

theorem Call.Orderly.pointing {b : Bool} {cs : List Call} (h : Call.Orderly b cs)
    (range name : Range) : Call.Orderly b (.reveal range :: .decorate [name] :: cs) := by
  have hname : Call.Orderly b (.decorate [name] :: cs) := h.cons ⟨nofun, nofun, nofun⟩
  exact hname.cons ⟨nofun, fun _ _ => ⟨name, cs, rfl⟩, nofun⟩

theorem Log.orderly {b : Bool} {cs : List Call} (h : Log b cs) : Call.Orderly b cs := by
  induction h with
  | nil => exact fun before c after h => by simp at h
  | closing => exact Call.orderly_closing
  | accepting target => exact Call.orderly_closing.cons ⟨nofun, nofun, nofun⟩
  | query text _ ih => exact ih.cons ⟨nofun, nofun, nofun⟩
  | listing labels active _ ih =>
    match active with
    | none => exact ih.cons ⟨nofun, nofun, nofun⟩
    | some (label, range, name) =>
      exact (ih.pointing range name).cons ⟨fun _ _ _ => ⟨range, _, rfl⟩, nofun, nofun⟩
  | pointing range name _ ih => exact ih.pointing range name

theorem Call.Orderly.count_close {b : Bool} {cs : List Call} (h : Call.Orderly b cs) :
    cs.count .close ≤ 1 := by
  by_cases hm : .close ∈ cs
  · obtain ⟨before, after, rfl, hb⟩ := List.eq_append_cons_of_mem hm
    obtain ⟨-, rfl, -⟩ := (h _ _ _ rfl).closed rfl
    rw [List.count_append, List.count_eq_zero_of_not_mem hb]
    simp
  · rw [List.count_eq_zero_of_not_mem hm]
    exact Nat.zero_le 1

theorem Log.close_mem_iff {b : Bool} {cs : List Call} (h : Log b cs) : .close ∈ cs ↔ b = true := by
  constructor
  · intro hm
    obtain ⟨before, after, rfl⟩ := List.append_of_mem hm
    exact ((h.orderly _ _ _ rfl).closed rfl).1
  · intro hb
    induction h with
    | nil => cases hb
    | closing => simp
    | accepting target => simp
    | query text _ ih => exact List.mem_cons_of_mem _ (ih hb)
    | listing labels active _ ih => exact List.mem_append_right _ (ih hb)
    | pointing range name _ ih => exact List.mem_cons_of_mem _ (List.mem_cons_of_mem _ (ih hb))

namespace Session

/-! ## What a call adds -/

theorem adds_pointAt (r : Recorder) (range name : Range) :
    r.Adds [.reveal range, .decorate [name]] (r.pointAt (some (range, name))) :=
  r.adds_reveal_decorate range name

/-- Showing rows and pointing at the active one adds one listing. -/
theorem adds_listing (s : Session) (items : List Item) (active : Option Item) :
    ∃ labels shown, s.recorder.Adds (Call.listing labels shown)
      ((s.recorder.display s.tree items active).pointAt (active.bind s.ranges?)) := by
  have hshow := s.recorder.adds_display s.tree items active
  refine ⟨Recorder.labels s.recorder.settings s.tree items,
    (active.bind (·.row? s.tree)).map fun row =>
      (Row.label s.recorder.settings row, row.node.range, s.document.nameRange row.node), ?_⟩
  cases active with
  | none => exact hshow
  | some i =>
    simp only [Option.bind_some, ranges?] at hshow ⊢
    cases hr : i.row? s.tree with
    | none =>
      rw [hr] at hshow
      exact hshow
    | some row =>
      rw [hr] at hshow
      exact hshow.trans (adds_pointAt _ _ _)

theorem adds_publish (s : Session) :
    ∃ labels shown, s.recorder.Adds (Call.listing labels shown) s.publish.recorder := by
  rw [publish_eq]
  exact s.adds_listing _ _

/-- The calls that write a text into the query field, if it is written there. -/
def writing (text : Text) : Bool → List Call
  | true => [.setQuery text]
  | false => []

theorem adds_answered (s : Session) (search : Search) (o : Outcome) (echo : Bool) :
    s.recorder.Adds (writing o.text (echo || o.completed)) (s.answered search o echo).recorder := by
  rw [answered]
  cases echo || o.completed with
  | true => exact s.recorder.adds_setQuery o.text
  | false => exact .of_events rfl

/-- The events are numbered, and the calls are a log that is closed if the session is. -/
structure Logged (s : Session) : Prop where
  numbered : s.recorder.Numbered
  log : Log s.disposed s.recorder.calls

/-- What an open session adds to its log keeps it one. -/
theorem Logged.adds {s s' : Session} (h : s.Logged) (hd : s.disposed = false) {cs : List Call}
    (ha : s.recorder.Adds cs s'.recorder) (hcs : Log s'.disposed cs) : s'.Logged where
  numbered := ha.numbered h.numbered
  log := by
    rw [ha.calls]
    exact (hd ▸ h.log).append hcs

theorem Logged.same {s s' : Session} (h : s.Logged) (hd : s'.disposed = s.disposed)
    (he : s'.recorder.events = s.recorder.events) : s'.Logged where
  numbered := (Recorder.Adds.of_events he).numbered h.numbered
  log := by
    rw [(Recorder.Adds.of_events he).calls, List.append_nil, hd]
    exact h.log

theorem Logged.answered {s : Session} (h : s.Logged) (hd : s.disposed = false) (search : Search)
    (o : Outcome) (echo : Bool) : (s.answered search o echo).Logged := by
  refine h.adds hd (adds_answered s search o echo) ?_
  rw [disposed_answered, hd]
  cases echo || o.completed with
  | true => exact .query o.text .nil
  | false => exact .nil

theorem Logged.publish {s : Session} (h : s.Logged) (hd : s.disposed = false) :
    s.publish.Logged := by
  obtain ⟨labels, shown, hp⟩ := adds_publish s
  refine h.adds hd hp ?_
  rw [disposed_publish, hd]
  simpa using Log.listing labels shown .nil

theorem Logged.redrawn {s : Session} (h : s.Logged) (hd : s.disposed = false) (tree : Tree)
    (active : Option Item) : (s.redrawn tree active).Logged :=
  have hs : ({ s with active, search := { s.search with tree } } : Session).Logged :=
    h.same rfl rfl
  hs.publish hd

theorem Logged.highlight {s : Session} (h : s.Logged) (hd : s.disposed = false) (i : Item) :
    (s.highlight i).Logged := by
  rw [highlight_eq]
  cases s.ranges? i with
  | none => exact h
  | some p =>
    refine h.adds hd (adds_pointAt _ p.1 p.2) ?_
    rw [hd]
    exact .pointing p.1 p.2 .nil

theorem logged_perform {s : Session} (h : s.Logged) (op : Operation) : (s.perform op).1.Logged := by
  have hm : (s.met op).Logged := h.same (by cases op <;> rfl) (by cases op <;> rfl)
  have hd := does_perform s op
  generalize s.perform op = r at hd ⊢
  cases hd with
  | refused | nothing => exact hm
  | hushed | armed | broken => exact hm.same rfl rfl
  | answered hd _ _ => exact (hm.answered hd _ _ _).publish ((disposed_answered ..).trans hd)
  | redrawn tree active hd => exact hm.redrawn hd tree active
  | @pointed i hd _ =>
    have hs : ({ s.met (.select i) with active := some i } : Session).Logged := hm.same rfl rfl
    exact hs.highlight hd i
  | accepted hd _ => exact hm.adds hd (Recorder.adds_accept _ _) (.accepting _)
  | closed hd => exact hm.adds hd (Recorder.adds_close _) .closing

/-! ## Closed sessions -/

/-- No call changes whether the session hears of the query field. -/
theorem listening_perform (s : Session) (op : Operation) :
    (s.perform op).1.recorder.listening = s.recorder.listening := by
  have hm : (s.met op).recorder.listening = s.recorder.listening := by cases op <;> rfl
  have hd := does_perform s op
  rw [← hm]
  generalize s.perform op = r at hd ⊢
  cases hd with
  | refused | nothing | hushed | armed | broken | accepted | closed => rfl
  | answered => exact (listening_publish _).trans (listening_answered ..)
  | redrawn => exact listening_publish _
  | pointed =>
    rw [highlight_eq]
    exact Recorder.listening_pointAt _ _

/-- Whether a call is one that only an open session serves. -/
def Operation.NeedsOpen : Operation → Prop
  | dispose | arm | consume => False
  | _ => True

/-- A closed session refuses every call that needs it open, and is left as the call met it. -/
theorem perform_closed {s : Session} (hd : s.disposed = true) (hl : s.recorder.listening = true)
    {op : Operation} (ho : op.NeedsOpen) :
    s.perform op = (s.met op, .error (.disposed s.id)) := by
  cases op with
  | type text =>
    rw [perform, typeQuery_listening hl]
    exact queryChanged_disposed (s := s.met (.type text)) hd text
  | changed text => exact queryChanged_disposed hd text
  | select => rw [perform, select, whileOpen_closed hd]; rfl
  | expandActive => rw [perform, expandActive, moveBy, whileOpen_closed hd]; rfl
  | collapseActive => rw [perform, collapseActive, moveBy, whileOpen_closed hd]; rfl
  | expandAll => rw [perform, expandAll, whileOpen_closed hd]; rfl
  | collapseAll => rw [perform, collapseAll, whileOpen_closed hd]; rfl
  | showAll => rw [perform, showAll, whileOpen_closed hd]; rfl
  | cycle => rw [perform, cycle, whileOpen_closed hd]; rfl
  | accept => rw [perform, accept, whileOpen_closed hd]; rfl
  | dispose | arm | consume => exact ho.elim

theorem dispose_closes {s : Session} (hd : s.disposed = false) :
    s.dispose.recorder.calls = s.recorder.calls ++ [.decorate [], .close] := by
  rw [dispose_open hd]
  exact s.recorder.adds_close.calls

/-- Accepting closes a session by telling the range that it answers, right before the closing. -/
theorem accept_closes {s : Session} (hd : s.disposed = false) (hc : s.accept.1.disposed = true) :
    ∃ r, s.accept.2 = .ok (some r) ∧
      s.accept.1.recorder.calls = s.recorder.calls ++ [.accept r, .decorate [], .close] := by
  rw [accept, whileOpen_open hd] at hc ⊢
  cases hr : s.activeRow with
  | none =>
    rw [hr] at hc
    exact absurd (hd.symm.trans hc) Bool.false_ne_true
  | some row =>
    refine ⟨targetRange row.node, rfl, ?_⟩
    dsimp only
    rw [dispose_over_open hd]
    exact (s.recorder.adds_accept _).calls

/-! ## Runs -/

theorem logged_opening (o : Opening) :
    o.session.Logged ∧ o.session.recorder.listening = true := by
  have hnew : o.unopened.Logged := ⟨nofun, .nil⟩
  refine o.induct (P := fun s => s.Logged ∧ s.recorder.listening = true)
    (fun search _ _ => ⟨hnew.same rfl rfl, rfl⟩) (fun search outcome tree active _ => ⟨?_, ?_⟩)
  · exact (hnew.answered rfl search outcome true).redrawn (disposed_answered ..) tree active
  · exact (listening_publish _).trans (listening_answered ..)

/-- **The order of events.** After every run of calls on an outline opened over a new recorder the
events are numbered from one on without a gap; a listing with an active row is followed by pointing
at it, and pointing at a range by the one name to highlight in it. Closing is told of exactly if the
session is closed, once, right after the highlights are taken away, and before that the range
accepted where a session is closed by accepting. Once it is closed, closing it again changes
nothing, and every other call is refused, adds no event and leaves the guard and the memory as they
are. -/
theorem events_in_order (o : Opening) (ops : List Operation) :
    let s := o.session.run ops
    let calls := s.recorder.events.map (·.call)
    (∀ i e, s.recorder.events[i]? = some e → e.seq = i + 1) ∧
    (∀ before labels label after, calls = before ++ .show labels (some label) :: after →
      ∃ r rest, after = .reveal r :: rest) ∧
    (∀ before r after, calls = before ++ .reveal r :: after →
      ∃ name rest, after = .decorate [name] :: rest) ∧
    calls.count .close ≤ 1 ∧
    (∀ before after, calls = before ++ .close :: after →
      ∃ rest, before = rest ++ [.decorate []]) ∧
    (.close ∈ calls ↔ s.disposed = true) ∧
    (s.disposed = false →
      s.dispose.recorder.events.map (·.call) = calls ++ [.decorate [], .close]) ∧
    (s.disposed = false → s.accept.1.disposed = true → ∃ r, s.accept.2 = .ok (some r) ∧
      s.accept.1.recorder.events.map (·.call) = calls ++ [.accept r, .decorate [], .close]) ∧
    (.close ∈ calls → s.dispose = s ∧ ∀ op : Operation, op.NeedsOpen →
      (s.perform op).2 = .error (.disposed s.id) ∧
        (s.perform op).1.recorder.events = s.recorder.events ∧
        (s.perform op).1.guard = s.guard ∧
        (s.perform op).1.search.memory = s.search.memory) := by
  intro s calls
  obtain ⟨hlog, hl⟩ : s.Logged ∧ s.recorder.listening = true :=
    run_induct (P := fun s => s.Logged ∧ s.recorder.listening = true) ops
      (fun op _ s h => ⟨logged_perform h.1 op, (listening_perform s op).trans h.2⟩)
      (logged_opening o)
  have horder : Call.Orderly s.disposed calls := hlog.log.orderly
  refine ⟨hlog.numbered, fun before labels label after h => (horder _ _ _ h).shown _ _ rfl,
    fun before r after h => (horder _ _ _ h).revealed _ rfl, horder.count_close,
    fun before after h => ((horder _ _ _ h).closed rfl).2.2, hlog.log.close_mem_iff,
    dispose_closes, accept_closes, fun hmem => ?_⟩
  have hd : s.disposed = true := hlog.log.close_mem_iff.mp hmem
  refine ⟨dispose_closed hd, fun op ho => ?_⟩
  rw [perform_closed hd hl ho]
  cases op <;> exact ⟨rfl, rfl, rfl, rfl⟩

/-- The class that the sample opens at is accepted, which closes it; unfolding is refused then. -/
theorem events_in_order_sample :
    let s := sample.session.run [.accept]
    .close ∈ s.recorder.events.map (·.call) ∧ s.dispose = s ∧
      (s.perform .expandAll).2 = .error (.disposed s.id) ∧
      (s.perform .expandAll).1.recorder.events = s.recorder.events := by
  intro s
  have hclose : .close ∈ s.recorder.events.map (·.call) := by decide +kernel
  obtain ⟨-, -, -, -, -, -, -, -, closed⟩ := events_in_order sample [.accept]
  obtain ⟨hagain, hrefused⟩ := closed hclose
  obtain ⟨hanswer, hevents, -⟩ := hrefused .expandAll trivial
  exact ⟨hclose, hagain, hanswer, hevents⟩

end Session

end Outline
