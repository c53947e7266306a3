import Mathlib.Logic.Function.Basic
import Outline.Proofs.Session.Echo

/-!
# Opening an outline again

Outlines that search names and outlines that search lines are opened and called in any order over
one memory (`Desk`). Whatever is called, a session stays one of the outline that it was opened with
(`StemsFrom`), and what is remembered for its mode is the last query typed into a session of that
mode (`Desk.get_memory_run`). What is shown after a query depends on the outline and that query
alone, so a session that is opened with the query remembered shows what was shown right after it
(`reopening_restores`).
-/
namespace Outline

/-! ## Queries that are in force -/

namespace Search

/-- A query with more to it than the sentinel asks for something. -/
theorem asked_ne_none {s : Search} (hs : s.sentinel ≠ []) {raw : Text} (hne : raw ≠ [])
    (hmore : raw ≠ s.sentinel) : s.asked raw ≠ .none := by
  have hsentinel := List.length_pos_iff.mpr hs
  have hraw := List.length_pos_iff.mpr hne
  have hlong : 1 < (s.prompt raw).length := by
    rw [prompt_eq]
    split
    · rename_i hpre
      have hle := hpre.length_le
      have hlt : s.sentinel.length ≠ raw.length := fun h => hmore (hpre.eq_of_length h).symm
      omega
    · rw [List.length_append]
      omega
  rw [asked, Query.parse, if_neg (by omega)]
  intro h
  split at h
  · cases h
  · split at h <;> cases h

theorem queryActive_of_apply {s s' : Search} {d : Document} {raw : Text} {o : Outcome}
    (h : s.apply d raw = (s', .ok o)) (hq : s.asked raw ≠ .none) : s'.queryActive = true := by
  rw [apply_of_query hq] at h
  split at h <;> cases h
  rfl

end Search

namespace Session

/-! ## What is shown after a query -/

/-- The row that the presentation was last told to be selected, as it is now. -/
def shownActive (s : Session) : Option Row := s.recorder.active.bind (·.row? s.tree)

/-- Two sessions show the same rows and have the same selection. -/
structure ShowsAs (s s' : Session) : Prop where
  rows : s.shownRows = s'.shownRows
  active : s.shownActive = s'.shownActive
  selected : s.activeRow = s'.activeRow

/-- Sessions of one outline with one selection show the same. -/
theorem showsAs_publish {s s' : Session} (ht : s.tree = s'.tree) (ha : s.active = s'.active) :
    s.publish.ShowsAs s'.publish := by
  have hactive : s.publish.active = s'.publish.active := by
    rw [publish_eq, publish_eq]
    dsimp only
    rw [ht, ha]
  have htree : s.publish.tree = s'.publish.tree := by
    rw [tree, tree, search_publish, search_publish]
    exact ht
  have hitems : s.publish.recorder.items = s'.publish.recorder.items := by
    rw [publish_eq, publish_eq]
    dsimp only
    rw [Recorder.items_pointAt, Recorder.items_pointAt]
    exact congrArg Item.listed ht
  have hshown : s.publish.recorder.active = s'.publish.recorder.active := by
    rw [publish_eq, publish_eq]
    dsimp only
    rw [Recorder.active_pointAt, Recorder.active_pointAt, ht, ha]
    rfl
  refine ⟨?_, ?_, ?_⟩
  · rw [shownRows, shownRows, hitems, htree]
  · rw [shownActive, shownActive, hshown, htree]
  · rw [activeRow, activeRow, hactive, htree]

/-- What is selected after a query depends on the document, the cursor and the outline then. -/
theorem active_answered (s : Session) (search : Search) (o : Outcome) (echo : Bool) :
    (s.answered search o echo).active =
      (Navigation.closest s.document s.cursor search.queryActive search.tree.visible).map
        fun row => .present row.path := by
  rw [answered]
  split <;> rfl

/-- A session opens with the query remembered if that asks for something. -/
theorem openOutline_queryActive {s : Session} (hd : s.disposed = false) {search : Search}
    {o : Outcome}
    (h : s.search.apply s.document (s.search.memory.get s.search.mode) = (search, .ok o))
    (hq : search.queryActive = true) :
    s.openOutline = ((s.answered search o true).publish, .ok ()) := by
  rw [openOutline, applyQuery_ok hd h]
  dsimp only
  rw [search_answered, if_pos hq]

/-! ## The outline of a session -/

/-- A session that was opened with an outline, between two calls. -/
structure StemsFrom (s : Session) (o : Opening) : Prop where
  kin : s.search.Kin o.unopened.search
  document : s.document = o.document
  cursor : s.cursor = o.cursor
  unarmed : s.guard.armed = false
  listening : s.recorder.listening = true

theorem kin_of_apply {s s' : Search} {d : Document} {raw : Text} {r : Except Abort Outcome}
    (h : s.apply d raw = (s', r)) : s'.Kin s := by
  have hk := s.kin_apply d raw
  rwa [h] at hk

theorem kin_queryChanged (s : Session) (text : Text) :
    (s.queryChanged text).1.search.Kin s.search := by
  cases hd : s.disposed with
  | true => rw [queryChanged_disposed hd]; exact .refl _
  | false =>
    cases ha : s.guard.armed with
    | true => rw [queryChanged_armed hd ha]; exact .refl _
    | false =>
      rcases h : s.search.apply s.document text with ⟨search, cause | o⟩
      · rw [queryChanged_error hd ha h]
        exact kin_of_apply h
      · rw [queryChanged_ok hd ha h, search_publish, search_answered]
        exact kin_of_apply h

theorem kin_whileOpen {s : Session} {k : Session → Step Unit}
    (hk : (k s).1.search.Kin s.search) : (s.whileOpen k).1.search.Kin s.search := by
  rw [whileOpen]
  split
  · exact .refl _
  · exact hk

theorem kin_redrawn (s : Session) {tree : Tree} (active : Option Item)
    (ht : tree.symbols = s.tree.symbols) : (s.redrawn tree active).search.Kin s.search := by
  rw [redrawn, search_publish]
  exact ⟨rfl, rfl, ht⟩

theorem kin_moveBy (s : Session) {f : Tree → Item → Tree × Item}
    (hf : ∀ t i, (f t i).1.symbols = t.symbols) : (s.moveBy f).1.search.Kin s.search := by
  refine kin_whileOpen ?_
  split
  · exact .refl _
  · exact kin_redrawn s _ (hf _ _)

@[simp] theorem search_dispose (s : Session) : s.dispose.search = s.search := by
  rw [dispose]
  split <;> rfl

/-- No call changes the symbols of the outline, the mode or the sentinel. -/
theorem kin_perform (s : Session) (op : Operation) : (s.perform op).1.search.Kin s.search := by
  cases op with
  | type text =>
    rw [perform, typeQuery, reportQuery]
    split
    · exact kin_queryChanged _ text
    · exact .refl _
  | changed text => exact kin_queryChanged s text
  | select i =>
    refine kin_whileOpen ?_
    split
    · rw [highlight_eq]
      exact .refl _
    · exact .refl _
  | expandActive => exact kin_moveBy s fun t i => Tree.symbols_expand t s.items i
  | collapseActive => exact kin_moveBy s Tree.symbols_collapse
  | expandAll => exact kin_whileOpen (kin_redrawn s s.active (Tree.symbols_setAllExpanded true _))
  | collapseAll =>
    exact kin_whileOpen (kin_redrawn s s.active (Tree.symbols_setAllExpanded false _))
  | showAll kinds => exact kin_whileOpen (kin_redrawn s s.active (Tree.symbols_expandTo _ _))
  | cycle d =>
    rw [perform, cycle, quiet_whileOpen]
    exact kin_whileOpen (kin_redrawn s _ rfl)
  | accept =>
    rw [perform, accept, quiet_whileOpen]
    refine kin_whileOpen ?_
    split
    · exact .refl _
    · rw [Step.quiet, search_dispose]
      exact .refl _
  | dispose =>
    rw [perform, search_dispose]
    exact .refl _
  | arm | consume => exact .refl _

/-- The document and the line of the cursor. -/
def place (s : Session) : Document × Int := (s.document, s.cursor)

theorem place_publish (s : Session) : s.publish.place = s.place := by
  rw [publish_eq]
  rfl

theorem place_answered (s : Session) (search : Search) (o : Outcome) (echo : Bool) :
    (s.answered search o echo).place = s.place := by
  rw [answered]
  split <;> rfl

theorem place_perform (s : Session) (op : Operation) : (s.perform op).1.place = s.place := by
  have hm : (s.met op).place = s.place := by cases op <;> rfl
  have hd := does_perform s op
  rw [← hm]
  generalize s.perform op = r at hd ⊢
  cases hd with
  | refused | nothing | hushed | armed | broken | accepted | closed => rfl
  | answered => exact (place_publish _).trans (place_answered ..)
  | redrawn => exact place_publish _
  | pointed =>
    rw [highlight_eq]
    rfl

theorem StemsFrom.perform {s : Session} {o : Opening} (hs : s.StemsFrom o) {op : Operation}
    (hop : op ≠ .arm) : (s.perform op).1.StemsFrom o where
  kin := (kin_perform s op).trans hs.kin
  document := (Prod.mk.inj (place_perform s op)).1.trans hs.document
  cursor := (Prod.mk.inj (place_perform s op)).2.trans hs.cursor
  unarmed := unarmed_perform hs.listening hs.unarmed hop
  listening := (listening_perform s op).trans hs.listening

/-- Opening an outline unfolds some of it at most. -/
theorem kin_openOutline {s : Session} (hd : s.disposed = false) :
    s.openOutline.1.search.Kin s.search := by
  rcases h : s.search.apply s.document (s.search.memory.get s.search.mode) with ⟨search, cause | o⟩
  · rw [openOutline_error h]
    exact kin_of_apply h
  · have happly : (s.answered search o true).search.Kin s.search := by
      rw [search_answered]
      exact kin_of_apply h
    rw [openOutline, applyQuery_ok hd h]
    dsimp only
    split
    · rw [search_publish]
      exact happly
    · rw [search_publish]
      split
      · split
        · exact ⟨happly.mode, happly.sentinel,
            (Tree.symbols_modifyAbove _ _ _).trans happly.symbols⟩
        · exact happly
      · exact happly

theorem place_opening (o : Opening) : o.session.place = (o.document, o.cursor) :=
  o.induct (P := fun s => s.place = (o.document, o.cursor)) (fun _ _ _ => rfl)
    fun _ _ _ _ _ => (place_publish _).trans (place_answered ..)

theorem stemsFrom_session (o : Opening) : o.session.StemsFrom o where
  kin := kin_openOutline rfl
  document := (Prod.mk.inj (place_opening o)).1
  cursor := (Prod.mk.inj (place_opening o)).2
  unarmed := unarmed_opening o
  listening := (logged_opening o).2

/-! ## What is remembered -/

/-- A call remembers nothing but the text of an edit. -/
theorem memory_perform (s : Session) (op : Operation) :
    (s.perform op).1.search.memory = s.search.memory ∨
      ∃ text, op.edit? = some text ∧
        (s.perform op).1.search.memory = s.search.memory.set s.search.mode text := by
  have hm : (s.met op).search = s.search := by cases op <;> rfl
  have hd := does_perform s op
  rw [← hm]
  generalize s.perform op = r at hd ⊢
  cases hd with
  | refused | nothing | hushed | armed | accepted | closed => exact Or.inl rfl
  | @broken op text search cause _ ho h =>
    refine Or.inr ⟨text, ho, ?_⟩
    have hset := (s.met op).search.memory_apply (s.met op).document text
    rw [h] at hset
    exact hset
  | @answered op text search o _ ho h => exact Or.inr ⟨text, ho, memory_answered h⟩
  | redrawn =>
    rw [redrawn, search_publish]
    exact Or.inl rfl
  | pointed =>
    rw [highlight_eq]
    exact Or.inl rfl

/-- Opening an outline types the query remembered, which changes nothing that is remembered. -/
theorem memory_session (o : Opening) : o.session.search.memory = o.memory := by
  have hset : o.memory.set o.mode (o.memory.get o.mode) = o.memory := by cases o.mode <;> rfl
  have hmemory : (o.unopened.search.apply o.unopened.document
      (o.unopened.search.memory.get o.unopened.search.mode)).1.memory = o.memory :=
    (Search.memory_apply ..).trans hset
  refine o.induct (P := fun s => s.search.memory = o.memory) (fun search cause h => ?_)
    (fun search outcome tree active h => ?_)
  · rw [h] at hmemory
    exact hmemory
  · rw [h] at hmemory
    rw [redrawn, search_publish]
    dsimp only
    rw [search_answered]
    exact hmemory

/-! ## An edit and an opening -/

/-- An edit that raises nothing is one search for its text and one listing. -/
theorem perform_edit {s : Session} {o : Opening} (hs : s.StemsFrom o) {op : Operation} {q : Text}
    (ho : op.edit? = some q) (hok : (s.perform op).2 = .ok ()) :
    ∃ search outcome, (s.met op).search.apply (s.met op).document q = (search, .ok outcome) ∧
      (s.perform op).1 = ((s.met op).answered search outcome false).publish := by
  obtain ⟨search, outcome, h, -, hp⟩ := edit_ok hs.listening hs.unarmed ho hok
  exact ⟨search, outcome, h, hp⟩

/-- The same outline opened later: by a new session over a new recorder, with what is remembered
then. -/
def Opening.again (o : Opening) (id : Text) (memory : Memory) (recorderId : Text)
    (recorderSettings : Settings) : Opening :=
  { o with id, memory, recorderId, recorderSettings }

/-- A session that is opened with a query remembered shows what any session of the outline showed
after that query, and has the query in its field. -/
theorem again_showsAs {s : Session} {o : Opening} (hs : s.StemsFrom o) {op : Operation} {q : Text}
    (ho : op.edit? = some q) (hok : (s.perform op).2 = .ok ())
    (hsentinel : o.settings.sentinel ≠ []) (hne : q ≠ []) (hmore : q ≠ o.settings.sentinel)
    (id : Text) {memory : Memory} (hq : memory.get o.mode = q) (recorderId : Text)
    (recorderSettings : Settings) :
    let again := o.again id memory recorderId recorderSettings
    again.unopened.openOutline.2 = .ok () ∧ again.session.ShowsAs (s.perform op).1 ∧
      again.session.recorder.queryText =
        some (if o.settings.sentinel <+: q then q else o.settings.sentinel ++ q) := by
  intro again
  obtain ⟨search, outcome, h, hafter⟩ := perform_edit hs ho hok
  set met := s.met op
  have hkin : again.unopened.search.Kin met.search := by
    have hmet : met.search = s.search := by cases op <;> rfl
    rw [hmet]
    exact ⟨hs.kin.mode.symm, hs.kin.sentinel.symm, hs.kin.symbols.symm⟩
  have hdocument : met.document = o.document := by cases op <;> exact hs.document
  have hcursor : met.cursor = o.cursor := by cases op <;> exact hs.cursor
  -- the same query of the same outline
  obtain ⟨houtcome, htree, hstatus⟩ := Search.apply_congr hkin o.document q
  rw [hdocument] at h
  rw [h] at houtcome htree hstatus
  have happly : again.unopened.search.apply again.unopened.document
      (again.unopened.search.memory.get again.unopened.search.mode) =
        ((again.unopened.search.apply o.document q).1, .ok outcome) :=
    Prod.ext (by rw [← hq]; rfl) (by rw [← houtcome, ← hq]; rfl)
  set search' := (again.unopened.search.apply o.document q).1
  have hactive : search'.queryActive = true := by
    refine Search.queryActive_of_apply happly ?_
    have hasked : again.unopened.search.asked q ≠ .none := Search.asked_ne_none hsentinel hne hmore
    rw [← hq] at hasked
    exact hasked
  have hopen : again.unopened.openOutline =
      ((again.unopened.answered search' outcome true).publish, .ok ()) :=
    openOutline_queryActive rfl happly hactive
  rw [Opening.session, hopen, hafter]
  refine ⟨rfl, showsAs_publish ?_ ?_, ?_⟩
  · rw [tree, tree, search_answered, search_answered]
    exact htree
  · have hquery : search'.queryActive = search.queryActive := by
      rw [Search.queryActive, Search.queryActive, hstatus outcome houtcome]
    rw [active_answered, active_answered, htree, hquery, hdocument, hcursor]
    rfl
  · have hprompt : outcome.text = again.unopened.search.prompt q := by
      rw [Search.text_of_apply h, hkin.prompt]
    rw [queryText_publish, answered, Bool.true_or, if_pos rfl]
    exact congrArg some (hprompt.trans (Search.prompt_eq ..))

/-! ## Outlines over one memory -/

/-- What an outline searches. -/
inductive Side
  | names
  | lines
  deriving DecidableEq

def Side.mode : Side → Mode
  | names => .symbol
  | lines => .text

/-- A session with what is remembered by now. -/
def recalling (s : Session) (memory : Memory) : Session :=
  { s with search := { s.search with memory } }

theorem StemsFrom.recalling {s : Session} {o : Opening} (hs : s.StemsFrom o) (memory : Memory) :
    (s.recalling memory).StemsFrom o where
  kin := ⟨hs.kin.mode, hs.kin.sentinel, hs.kin.symbols⟩
  document := hs.document
  cursor := hs.cursor
  unarmed := hs.unarmed
  listening := hs.listening

/-- Where outlines are opened: what is remembered, and for each side the session last opened with
what it was opened with. -/
structure Desk where
  memory : Memory := {}
  seat : Side → Option (Opening × Session) := fun _ => none

/-- What is done at a desk. -/
inductive Act
  | opens (side : Side) (o : Opening)
  | call (side : Side) (op : Operation)

namespace Desk

/-- The desk after a session took a seat. -/
def take (d : Desk) (side : Side) (o : Opening) (s : Session) : Desk where
  memory := s.search.memory
  seat := Function.update d.seat side (some (o, s))

/-- The desk after one act: an outline is opened with what is remembered, and a call meets what is
remembered. -/
def act (d : Desk) : Act → Desk
  | .opens side o =>
    let o := { o with mode := side.mode, memory := d.memory }
    d.take side o o.session
  | .call side op =>
    match d.seat side with
    | none => d
    | some (o, s) => d.take side o ((s.recalling d.memory).perform op).1

def run (d : Desk) (acts : List Act) : Desk := acts.foldl act d

/-- On each side sits a session of the outline that it was opened with, in the mode of the side. -/
def Sound (d : Desk) : Prop :=
  ∀ side o s, d.seat side = some (o, s) → o.mode = side.mode ∧ s.StemsFrom o

theorem Sound.take {d : Desk} (h : d.Sound) {side : Side} {o : Opening} {s : Session}
    (hmode : o.mode = side.mode) (hs : s.StemsFrom o) : (d.take side o s).Sound := by
  intro side' o' s' hseat
  by_cases he : side' = side
  · subst he
    have hself : (d.take side' o s).seat side' = some (o, s) := Function.update_self ..
    rw [hself] at hseat
    cases hseat
    exact ⟨hmode, hs⟩
  · have hother : (d.take side o s).seat side' = d.seat side' := Function.update_of_ne he ..
    rw [hother] at hseat
    exact h side' o' s' hseat

theorem sound_act {d : Desk} (h : d.Sound) {a : Act} (ha : ∀ side, a ≠ .call side .arm) :
    (d.act a).Sound := by
  cases a with
  | opens side o => exact h.take rfl (stemsFrom_session _)
  | call side op =>
    rw [act]
    split
    · exact h
    · rename_i o s hseat
      obtain ⟨hmode, hs⟩ := h side o s hseat
      exact h.take hmode ((hs.recalling d.memory).perform fun hop => ha side (hop ▸ rfl))

theorem sound_run {d : Desk} (h : d.Sound) {acts : List Act}
    (hacts : ∀ side, .call side .arm ∉ acts) : (d.run acts).Sound := by
  induction acts generalizing d with
  | nil => exact h
  | cons a acts ih =>
    refine ih (sound_act h fun side ha => hacts side ?_)
      fun side hmem => hacts side (List.mem_cons_of_mem _ hmem)
    exact ha ▸ List.mem_cons_self ..

/-- An act that edits no query of a side leaves what is remembered for that side. -/
theorem get_memory_act {d : Desk} (h : d.Sound) {side : Side} {a : Act}
    (ha : ∀ op, a = .call side op → op.edit? = none) :
    (d.act a).memory.get side.mode = d.memory.get side.mode := by
  cases a with
  | opens side' o => exact congrArg (·.get side.mode) (memory_session _)
  | call side' op =>
    rw [act]
    split
    · rfl
    · rename_i o s hseat
      obtain ⟨hmode, hs⟩ := h side' o s hseat
      rw [take]
      dsimp only
      rcases memory_perform (s.recalling d.memory) op with hm | ⟨text, ho, hm⟩
      · rw [hm]
        rfl
      · have hother : side' ≠ side := by
          rintro rfl
          rw [ha op rfl] at ho
          cases ho
        have hsides : side.mode = .symbol ↔ s.search.mode ≠ .symbol := by
          rw [hs.kin.mode]
          show side.mode = .symbol ↔ o.mode ≠ .symbol
          rw [hmode]
          cases side <;> cases side' <;> simp_all [Side.mode]
        rw [hm]
        exact Memory.get_set_other hsides _ _

theorem get_memory_run {d : Desk} (h : d.Sound) {side : Side} {acts : List Act}
    (harm : ∀ side, .call side .arm ∉ acts)
    (hacts : ∀ op, .call side op ∈ acts → op.edit? = none) :
    (d.run acts).memory.get side.mode = d.memory.get side.mode := by
  induction acts generalizing d with
  | nil => rfl
  | cons a acts ih =>
    have hnext : (d.act a).Sound :=
      sound_act h fun side ha => harm side (ha ▸ List.mem_cons_self ..)
    refine (ih hnext (fun side hmem => harm side (List.mem_cons_of_mem _ hmem))
      fun op hmem => hacts op (List.mem_cons_of_mem _ hmem)).trans ?_
    exact get_memory_act h fun op ha => hacts op (ha ▸ List.mem_cons_self ..)

end Desk

/-- **Opening an outline again.** Outlines of both sides are opened and called over one memory, in
any order and with the guard never armed by the host. If the last edit of a query on one side was
one to `q`, and that did not end early and is more than the sentinel, then opening the same outline
anew with what is remembered shows the rows and the selection that were shown right after the edit,
whatever was done since, and the query field holds `q`, with the sentinel in front if it was
missing. -/
theorem reopening_restores {memory : Memory} {before after : List Act} {side : Side}
    {op : Operation} {q : Text} {o : Opening} {s : Session} (id recorderId : Text)
    (recorderSettings : Settings)
    (harm : ∀ side, .call side .arm ∉ before ++ after)
    (hseat : (Desk.run { memory } before).seat side = some (o, s))
    (hedit : op.edit? = some q)
    (hok : ((s.recalling (Desk.run { memory } before).memory).perform op).2 = .ok ())
    (hlast : ∀ op', .call side op' ∈ after → op'.edit? = none)
    (hsentinel : o.settings.sentinel ≠ []) (hne : q ≠ []) (hmore : q ≠ o.settings.sentinel) :
    let shown := ((s.recalling (Desk.run { memory } before).memory).perform op).1
    let again := o.again id (Desk.run { memory } (before ++ .call side op :: after)).memory
      recorderId recorderSettings
    again.unopened.openOutline.2 = .ok () ∧ again.session.ShowsAs shown ∧
      again.session.recorder.queryText =
        some (if o.settings.sentinel <+: q then q else o.settings.sentinel ++ q) := by
  intro shown again
  set d := Desk.run { memory } before with hd
  have hsound : d.Sound := by
    have hempty : Desk.Sound { memory } := fun side o s hseat => by cases hseat
    exact Desk.sound_run hempty fun side hmem => harm side (List.mem_append_left _ hmem)
  obtain ⟨hmode, hs⟩ := hsound side o s hseat
  have hnotArm : op ≠ .arm := by
    rintro rfl
    cases hedit
  have hstep : d.act (.call side op) = d.take side o shown := by
    rw [Desk.act, hseat]
  have hnext : (d.act (.call side op)).Sound := by
    rw [hstep]
    exact hsound.take hmode ((hs.recalling d.memory).perform hnotArm)
  -- the edit is remembered, and stays so
  have hedited : shown.search.memory.get side.mode = q := by
    obtain ⟨search, outcome, h, hafter⟩ := perform_edit (hs.recalling d.memory) hedit hok
    have hmet : ((s.recalling d.memory).met op).search.mode = side.mode := by
      have hmodes : s.search.mode = side.mode := hs.kin.mode.trans hmode
      cases op <;> exact hmodes
    have hmemory : shown.search.memory = _ := (congrArg (·.search.memory) hafter).trans
      (memory_answered h)
    rw [hmemory, hmet, Memory.get_set]
  have hq : (Desk.run { memory } (before ++ .call side op :: after)).memory.get o.mode = q := by
    have hrun : Desk.run { memory } (before ++ .call side op :: after) =
        (d.act (.call side op)).run after := List.foldl_append ..
    have hkept := Desk.get_memory_run hnext
      (fun side hmem => harm side (List.mem_append_right _ hmem)) hlast
    rw [hrun, hmode, hkept, hstep]
    exact hedited
  exact again_showsAs (hs.recalling d.memory) hedit hok hsentinel hne hmore id hq recorderId
    recorderSettings

/-- The names with an `m` are searched for, then an outline of the lines is opened and searched for
an `x`, and one of the names is accepted: opened again, the outline shows the names with an `m`, and
the query field `#m`. -/
theorem reopening_restores_sample :
    let s := sample.session
    let after := [Act.opens .lines sample, .call .lines (.type ['x']), .call .names .collapseAll,
      .call .names (.cycle .next), .call .names .accept]
    let memory :=
      (Desk.run {} ([.opens .names sample] ++ .call .names (.type ['m']) :: after)).memory
    let again := sample.again "qo_0002".toList memory ['-'] {}
    again.session.shownRows = (s.perform (.type ['m'])).1.shownRows ∧
      again.session.recorder.queryText = some ['#', 'm'] := by
  intro s after memory again
  have harm : ∀ side, .call side .arm ∉ [Act.opens .names sample] ++ after := by simp [after]
  have hseat : (Desk.run {} [.opens .names sample]).seat .names = some (sample, s) := rfl
  have hok : ((s.recalling (Desk.run {} [.opens .names sample]).memory).perform
      (.type ['m'])).2 = .ok () := by decide +kernel
  have hlast : ∀ op, .call .names op ∈ after → op.edit? = none := by
    simp [after, Operation.edit?]
  obtain ⟨-, hshows, hfield⟩ := reopening_restores "qo_0002".toList ['-'] {} harm hseat rfl hok
    hlast (by decide) (by decide) (by decide)
  exact ⟨hshows.rows, hfield⟩

end Session

end Outline
