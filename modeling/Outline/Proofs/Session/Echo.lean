import Outline.Proofs.Search.History
import Outline.Proofs.Session.Events

/-!
# The echo of a query

A query without its sentinel is written back with it, and the query field reports that to the
session in the middle of the query. `Leads` follows the reports as they are nested and notes every
text that is searched for on the way. The guard swallows exactly the echo: a report that the guard
lets through leads to one search for its own text (`leads_iff`), which is what the search takes down
(`Leads.searched`), and the guard is unarmed between calls (`unarmed_perform`). `edit_applied_once`
says what an edit by the user comes to.
-/
namespace Outline

theorem Text.isNone_dropPrefix?_iff {t p : Text} : (t.dropPrefix? p).isNone = true ↔ ¬p <+: t := by
  fun_induction dropPrefix? t p with
  | case1 t => simp
  | case2 p ps => simp
  | case3 t ps p ih => simp [ih]
  | case4 c t p ps h => simp [List.cons_prefix_cons, Ne.symm h]

/-- A query is completed exactly if it does not start with the sentinel. -/
theorem Search.prompt_eq (s : Search) (raw : Text) :
    s.prompt raw = if s.sentinel <+: raw then raw else s.sentinel ++ raw := by
  rw [prompt]
  simp only [Text.isNone_dropPrefix?_iff, ite_not]

theorem Memory.get_set (m : Memory) (mode : Mode) (q : Text) : (m.set mode q).get mode = q := by
  cases mode <;> rfl

/-- The memory of names and that of lines are apart. -/
theorem Memory.get_set_other {mode mode' : Mode} (h : mode' = .symbol ↔ mode ≠ .symbol)
    (m : Memory) (q : Text) : (m.set mode q).get mode' = m.get mode' := by
  cases mode <;> cases mode' <;> simp_all [Memory.set, Memory.get]

namespace Session

/-! ## Nested reports -/

/-- A session that was about to write a text into the query field, with the guard armed. -/
def writingBack (s : Session) (text : Text) : Session :=
  { s with guard := s.guard.arm, recorder := s.recorder.setQuery text }

/-- Where a report of the query field leads: the texts that are searched for on its account, one
after the other, and what comes of it. -/
inductive Leads : Session → Text → List Text → Step Unit → Prop
  | closed {s text} (hd : s.disposed = true) : Leads s text [] (s, .error (.disposed s.id))
  | swallowed {s text} (hd : s.disposed = false) (ha : s.guard.armed = true) :
    Leads s text [] ({ s with guard := {} }, .ok ())
  | broken {s text search cause} (hd : s.disposed = false) (ha : s.guard.armed = false)
    (h : s.search.apply s.document text = (search, .error cause)) :
    Leads s text [text] (s.broken search, .error (.aborted cause))
  | complete {s text search o} (hd : s.disposed = false) (ha : s.guard.armed = false)
    (h : s.search.apply s.document text = (search, .ok o)) (hc : o.completed = false) :
    Leads s text [text] (({ s with search } : Session).settle.publish, .ok ())
  | unheard {s text search o} (hd : s.disposed = false) (ha : s.guard.armed = false)
    (h : s.search.apply s.document text = (search, .ok o)) (hc : o.completed = true)
    (hl : s.recorder.listening = false) :
    Leads s text [text] ((writingBack { s with search } o.text).settle.publish, .ok ())
  | heard {s text search o later s'} (hd : s.disposed = false) (ha : s.guard.armed = false)
    (h : s.search.apply s.document text = (search, .ok o)) (hc : o.completed = true)
    (hl : s.recorder.listening = true)
    (echo : Leads (writingBack { s with search } o.text) o.text later (s', .ok ())) :
    Leads s text (text :: later) (s'.settle.publish, .ok ())
  | refused {s text search o later s' e} (hd : s.disposed = false) (ha : s.guard.armed = false)
    (h : s.search.apply s.document text = (search, .ok o)) (hc : o.completed = true)
    (hl : s.recorder.listening = true)
    (echo : Leads (writingBack { s with search } o.text) o.text later (s', .error e)) :
    Leads s text (text :: later) (s', .error e)

/-- The echo is swallowed, and nothing is searched for on its account. -/
theorem leads_writingBack {s : Session} (hd : s.disposed = false) (hl : s.recorder.listening = true)
    (text : Text) : Leads (s.writingBack text) text [] (s.written text, .ok ()) := by
  have hd' : (s.writingBack text).disposed = false := hd
  rw [written, hl]
  exact .swallowed hd' rfl

theorem Leads.of_writingBack {s : Session} (hd : s.disposed = false)
    (hl : s.recorder.listening = true) {text : Text} {later : List Text} {r : Step Unit}
    (h : Leads (s.writingBack text) text later r) : later = [] ∧ r = (s.written text, .ok ()) := by
  have hwritten : s.written text = { s.writingBack text with guard := {} } := by
    rw [written, hl]
    rfl
  cases h with
  | closed hd' => exact absurd (hd.symm.trans hd') Bool.false_ne_true
  | swallowed => exact ⟨rfl, by rw [hwritten]⟩
  | broken _ ha | complete _ ha | unheard _ ha | heard _ ha | refused _ ha =>
    exact absurd ha.symm Bool.false_ne_true

/-- A report leads to one search for its own text if the guard lets it through, else to none, and
the session does what it leads to. -/
theorem leads_iff {s : Session} {text : Text} {qs : List Text} {r : Step Unit} :
    Leads s text qs r ↔
      r = s.queryChanged text ∧ qs = if s.disposed || s.guard.armed then [] else [text] := by
  constructor
  · intro h
    cases h with
    | closed hd => exact ⟨(queryChanged_disposed hd text).symm, by simp [hd]⟩
    | swallowed hd ha => exact ⟨(queryChanged_armed hd ha text).symm, by simp [ha]⟩
    | broken hd ha h => exact ⟨(queryChanged_error hd ha h).symm, by simp [hd, ha]⟩
    | complete hd ha h hc =>
      rw [queryChanged_ok hd ha h, answered, hc]
      exact ⟨rfl, by simp [hd, ha]⟩
    | unheard hd ha h hc hl =>
      rw [queryChanged_ok hd ha h, answered, hc, written, hl]
      exact ⟨rfl, by simp [hd, ha]⟩
    | @heard s text search o later s' hd ha h hc hl echo =>
      obtain ⟨rfl, hs⟩ := echo.of_writingBack (s := { s with search }) hd hl
      cases hs
      rw [queryChanged_ok hd ha h, answered, hc]
      exact ⟨rfl, by simp [hd, ha]⟩
    | @refused s text search o later s' e hd ha h hc hl echo =>
      obtain ⟨-, hs⟩ := echo.of_writingBack (s := { s with search }) hd hl
      cases hs
  · rintro ⟨rfl, rfl⟩
    cases hd : s.disposed with
    | true => rw [queryChanged_disposed hd]; exact .closed hd
    | false =>
      cases ha : s.guard.armed with
      | true => rw [queryChanged_armed hd ha]; exact .swallowed hd ha
      | false =>
        rcases h : s.search.apply s.document text with ⟨search, cause | o⟩
        · rw [queryChanged_error hd ha h]
          exact .broken hd ha h
        · rw [queryChanged_ok hd ha h, answered]
          cases hc : o.completed with
          | false => exact .complete hd ha h hc
          | true =>
            cases hl : s.recorder.listening with
            | false =>
              have hw : ({ s with search } : Session).written o.text =
                  writingBack { s with search } o.text := by rw [written, hl]; rfl
              rw [hw]
              exact .unheard hd ha h hc hl
            | true =>
              exact .heard hd ha h hc hl (leads_writingBack (s := { s with search }) hd hl o.text)

theorem searched_of_apply {s : Session} {text : Text} {search : Search}
    {r : Except Abort Outcome} (h : s.search.apply s.document text = (search, r)) :
    search.searched = s.search.searched ++ [text] := by
  have hs := s.search.searched_apply s.document text
  rwa [h] at hs

/-- The texts that a report leads to a search for are those that the search takes down on its
account. -/
theorem Leads.searched {s : Session} {text : Text} {qs : List Text} {r : Step Unit}
    (h : Leads s text qs r) : r.1.search.searched = s.search.searched ++ qs := by
  induction h with
  | closed | swallowed => exact (List.append_nil _).symm
  | broken _ _ h => exact searched_of_apply h
  | complete _ _ h | unheard _ _ h =>
    rw [search_publish]
    exact searched_of_apply h
  | heard _ _ h _ _ _ ih =>
    rw [search_publish]
    refine ih.trans ?_
    rw [List.append_cons]
    exact congrArg (· ++ _) (searched_of_apply h)
  | refused _ _ h _ _ _ ih =>
    refine ih.trans ?_
    rw [List.append_cons]
    exact congrArg (· ++ _) (searched_of_apply h)

/-! ## The guard between calls -/

/-- Where the session hears of the query field, the echo has used up the guard. -/
theorem guard_answered {s : Session} (hl : s.recorder.listening = true)
    (ha : s.guard.armed = false) (search : Search) (o : Outcome) (echo : Bool) :
    (s.answered search o echo).guard.armed = false := by
  rw [answered]
  split
  · simp [settle, written, hl]
  · exact ha

/-- Every call but arming leaves the guard unarmed if it was. -/
theorem unarmed_perform {s : Session} (hl : s.recorder.listening = true)
    (ha : s.guard.armed = false) {op : Operation} (ho : op ≠ .arm) :
    (s.perform op).1.guard.armed = false := by
  have hml : (s.met op).recorder.listening = true := by cases op <;> exact hl
  have hma : (s.met op).guard.armed = false := by cases op <;> exact ha
  have hd := does_perform s op
  generalize s.perform op = r at hd ⊢
  cases hd with
  | refused | nothing | broken => exact hma
  | hushed => rfl
  | armed => exact absurd rfl ho
  | answered =>
    rw [guard_publish]
    exact guard_answered hml hma _ _ _
  | redrawn =>
    rw [redrawn, guard_publish]
    exact hma
  | pointed =>
    rw [highlight_eq]
    exact hma
  | accepted | closed => exact hma

theorem unarmed_opening (o : Opening) : o.session.guard.armed = false := by
  refine o.induct (P := fun s => s.guard.armed = false) (fun search _ _ => rfl)
    (fun search outcome tree active _ => ?_)
  rw [redrawn, guard_publish]
  exact guard_answered rfl rfl search outcome true

/-! ## Mode and sentinel -/

/-- The mode and the sentinel that queries are read with. -/
def reads (s : Session) : Mode × Text := (s.search.mode, s.search.sentinel)

theorem reads_apply {s : Session} {text : Text} {search : Search} {r : Except Abort Outcome}
    (h : s.search.apply s.document text = (search, r)) :
    (search.mode, search.sentinel) = s.reads := by
  have hk := s.search.kin_apply s.document text
  rw [h] at hk
  exact Prod.ext hk.mode hk.sentinel

theorem reads_shown {s : Session} {text : Text} {search : Search} {o : Outcome} (echo : Bool)
    (h : s.search.apply s.document text = (search, .ok o)) :
    (s.answered search o echo).publish.reads = s.reads := by
  rw [reads, search_publish, search_answered]
  exact reads_apply h

theorem reads_redrawn (s : Session) (tree : Tree) (active : Option Item) :
    (s.redrawn tree active).reads = s.reads := by
  rw [reads, redrawn, search_publish]
  rfl

/-- No call changes the mode or the sentinel. -/
theorem reads_perform (s : Session) (op : Operation) : (s.perform op).1.reads = s.reads := by
  have hm : (s.met op).reads = s.reads := by cases op <;> rfl
  have hd := does_perform s op
  rw [← hm]
  generalize s.perform op = r at hd ⊢
  cases hd with
  | refused | nothing | hushed | armed | accepted | closed => rfl
  | broken _ _ h => exact reads_apply h
  | answered _ _ h => exact reads_shown false h
  | redrawn => exact reads_redrawn ..
  | pointed =>
    rw [highlight_eq]
    rfl

theorem reads_opening (o : Opening) : o.session.reads = (o.mode, o.settings.sentinel) :=
  o.induct (P := fun s => s.reads = (o.mode, o.settings.sentinel))
    (fun _ _ h => reads_apply h) fun _ _ _ _ h =>
      (reads_redrawn ..).trans (by rw [reads, search_answered]; exact reads_apply h)

/-! ## Edits -/

/-- The query field after an edit shows the text of the query. -/
theorem queryText_answered {s : Session} {text : Text} {search : Search} {o : Outcome}
    (h : s.search.apply s.document text = (search, .ok o))
    (hq : s.recorder.queryText = some text) :
    (s.answered search o false).recorder.queryText = some (s.search.prompt text) := by
  rw [answered, Bool.false_or, Search.completed_of_apply h, ← Search.text_of_apply h]
  split
  · rfl
  · rename_i hc
    rw [Search.text_of_apply h, Search.prompt, if_neg hc]
    exact hq

/-- An edit is remembered as typed, for the mode of the session. -/
theorem memory_answered {s : Session} {text : Text} {search : Search} {o : Outcome}
    (h : s.search.apply s.document text = (search, .ok o)) :
    (s.answered search o false).publish.search.memory = s.search.memory.set s.search.mode text := by
  have hset := s.search.memory_apply s.document text
  rw [h] at hset
  rw [search_publish, search_answered, hset]

/-- The calls of an edit: the text written back, if the sentinel was missing, and one listing. -/
theorem adds_edit {s : Session} {text : Text} {search : Search} {o : Outcome}
    (h : s.search.apply s.document text = (search, .ok o)) :
    ∃ labels shown, s.recorder.Adds
      ((if s.search.sentinel <+: text then [] else [.setQuery (s.search.sentinel ++ text)]) ++
        Call.listing labels shown) (s.answered search o false).publish.recorder := by
  obtain ⟨labels, shown, hp⟩ := adds_publish (s.answered search o false)
  have ha := (adds_answered s search o false).trans hp
  have hc := Search.completed_of_apply h
  rw [Bool.false_or, Search.text_of_apply h, Search.prompt_eq] at ha
  refine ⟨labels, shown, ?_⟩
  by_cases hpre : s.search.sentinel <+: text
  · have hno : o.completed = false := by
      rw [hc, ← Bool.not_eq_true, Text.isNone_dropPrefix?_iff, not_not]
      exact hpre
    rw [hno] at ha
    rwa [if_pos hpre]
  · have hyes : o.completed = true := by rw [hc, Text.isNone_dropPrefix?_iff]; exact hpre
    rw [hyes, if_neg hpre] at ha
    rwa [if_neg hpre]

theorem count_listing (labels : List Text) (shown : Option (Text × Range × Range)) :
    (Call.listing labels shown).countP (·.type == .show) = 1 ∧
      (Call.listing labels shown).filter (·.type == .setQuery) = [] := by
  cases shown <;> exact ⟨rfl, rfl⟩

/-! ## Runs -/

/-- Between the calls of a run that never arms the guard, the guard is unarmed, the session hears of
the query field, and queries are read as from the opening on. -/
theorem between_calls (o : Opening) {ops : List Operation} (hops : .arm ∉ ops) :
    (o.session.run ops).guard.armed = false ∧ (o.session.run ops).recorder.listening = true ∧
      (o.session.run ops).reads = (o.mode, o.settings.sentinel) := by
  refine run_induct (P := fun s => s.guard.armed = false ∧ s.recorder.listening = true ∧
    s.reads = (o.mode, o.settings.sentinel)) ops ?_
    ⟨unarmed_opening o, (logged_opening o).2, reads_opening o⟩
  intro op hop s hs
  obtain ⟨ha, hl, hr⟩ := hs
  have hno : op ≠ .arm := fun e => hops (e ▸ hop)
  exact ⟨unarmed_perform hl ha hno, (listening_perform s op).trans hl,
    (reads_perform s op).trans hr⟩

/-- **The echo of a query.** As long as the host does not arm the guard, the guard is unarmed after
every call, and every edit by the user whose query does not end early is searched for once, as it
was typed, and listed once. The query field is written to exactly if the sentinel was missing, and
shows the query with its sentinel then; the query is remembered as typed for the mode of the
session, and what is remembered for the other mode stays. -/
theorem edit_applied_once (o : Opening) {ops : List Operation} (hops : .arm ∉ ops) :
    let s := o.session.run ops
    let sentinel := o.settings.sentinel
    s.guard.armed = false ∧
    ∀ text, s.disposed = false →
      (∀ cause, (s.typeQuery text).2 ≠ .error (.aborted cause)) →
      let s' := (s.typeQuery text).1
      (∀ qs r, Leads (s.met (.type text)) text qs r ↔ qs = [text] ∧ r = (s', .ok ())) ∧
      s'.search.searched = s.search.searched ++ [text] ∧
      (∃ new, s'.recorder.events.map (·.call) = s.recorder.events.map (·.call) ++ new ∧
        new.countP (·.type == .show) = 1 ∧
        new.filter (·.type == .setQuery) =
          if sentinel <+: text then [] else [.setQuery (sentinel ++ text)]) ∧
      s'.recorder.queryText = some (if sentinel <+: text then text else sentinel ++ text) ∧
      s'.search.memory.get o.mode = text ∧
      ∀ m, (m = .symbol ↔ o.mode ≠ .symbol) →
        s'.search.memory.get m = s.search.memory.get m := by
  intro s sentinel
  obtain ⟨ha, hl, hr⟩ := between_calls o hops
  obtain ⟨hmode, hsentinel⟩ := Prod.mk.inj hr
  refine ⟨ha, fun text hd hno => ?_⟩
  -- the session hears of the edit, with the text in the query field already
  set edited := s.met (.type text) with hedited
  have hed : edited.disposed = false := hd
  have hea : edited.guard.armed = false := ha
  have hsame : edited.search.sentinel = sentinel := hsentinel
  rw [typeQuery_listening hl] at hno ⊢
  rcases h : edited.search.apply edited.document text with ⟨search, cause | outcome⟩
  · rw [queryChanged_error hed hea h] at hno
    exact absurd rfl (hno cause)
  · rw [queryChanged_ok hed hea h]
    dsimp only
    have hmemory : (edited.answered search outcome false).publish.search.memory =
        s.search.memory.set o.mode text := by
      rw [memory_answered h, ← hmode]
      rfl
    have hleads : ∀ qs r, Leads edited text qs r ↔
        qs = [text] ∧ r = ((edited.answered search outcome false).publish, .ok ()) := by
      intro qs r
      rw [leads_iff, queryChanged_ok hed hea h, hed, hea]
      exact and_comm
    refine ⟨hleads, ((hleads [text] _).mpr ⟨rfl, rfl⟩).searched, ?_, ?_, ?_, ?_⟩
    · obtain ⟨labels, shown, hp⟩ := adds_edit h
      refine ⟨_, hp.calls, ?_⟩
      obtain ⟨hshow, hset⟩ := count_listing labels shown
      rw [List.countP_append, List.filter_append, hshow, hset, hsame]
      split <;> exact ⟨rfl, rfl⟩
    · rw [queryText_publish, queryText_answered h rfl, Search.prompt_eq, hsame]
    · rw [hmemory, Memory.get_set]
    · intro m hm
      rw [hmemory, Memory.get_set_other hm]

theorem edit_applied_once_sample :
    (sample.session.run [.expandAll]).guard.armed = false ∧
      ((sample.session.run [.expandAll]).typeQuery ['m']).1.search.searched = [[], ['m']] ∧
      ((sample.session.run [.expandAll]).typeQuery ['m']).1.recorder.queryText = some ['#', 'm'] ∧
      ((sample.session.run [.expandAll]).typeQuery ['m']).1.search.memory.get .symbol = ['m'] := by
  have hok : ((sample.session.run [.expandAll]).typeQuery ['m']).2 = .ok () := by decide +kernel
  have hopened : (sample.session.run [.expandAll]).search.searched = [[]] := by decide +kernel
  obtain ⟨unarmed, edits⟩ := edit_applied_once sample
    (by decide : Operation.arm ∉ [Operation.expandAll])
  obtain ⟨-, searched, -, field, remembered, -⟩ := edits ['m'] (by decide +kernel)
    (fun cause h => absurd (hok.symm.trans h) nofun)
  exact ⟨unarmed, searched.trans (by rw [hopened]; rfl), field, remembered⟩

end Session

end Outline
