import Outline.Proofs.Session.Consistency
import Outline.Proofs.Session.Reopening
import Outline.Proofs.Tree.Folding

/-!
# Folding loses no results

Commands that move the selection and fold or unfold (`Operation.Moves`) leave the outline what it is
but for what is unfolded in it (`refolded_run`). What a query leaves is laid out as soon as it is
unfolded (`Settled.laid`), so that unfolding everything lists all that the query did not hide,
whatever was folded in between (`folding_keeps_results`).
-/
namespace Outline

namespace Search

/-- The flags of the symbols where no query is in force. -/
def idleFlags (mode : Mode) : Flags := if mode = .symbol then {} else { hidden := true }

/-- Where no query is in force, the symbols are laid out once they are unfolded. -/
theorem laid_unfolded_idle (mode : Mode) (F : SymbolForest) :
    ((Tree.blank (idleFlags mode) F).setAllExpanded true).Laid := by
  rw [idleFlags]
  split
  · exact Tree.laid_unfolded_blank F
  · exact (Tree.laid_of_trim (Tree.trim_blank F)).unfolded

/-- A query that did not end early leaves a trim outline, or the bare symbols if it asks for
nothing. -/
theorem tree_of_apply {s s' : Search} {d : Document} {raw : Text} {o : Outcome}
    (h : s.apply d raw = (s', .ok o)) :
    (s'.queryActive = true → s'.tree.Trim) ∧
      (s'.queryActive = false → s'.tree = Tree.blank (idleFlags s.mode) s.tree.symbols) := by
  by_cases hq : s.asked raw = .none
  · rw [apply_of_none hq] at h
    cases h
    exact ⟨nofun, fun _ => unfiltered_eq s.mode s.tree⟩
  · have hactive := queryActive_of_apply h hq
    have hne : o.query ≠ .none := query_of_apply h ▸ hq
    refine ⟨fun _ => pass_trim (Tree.trim_blank _) (apply_ok h hne).2.1, fun hidle => ?_⟩
    rw [hactive] at hidle
    cases hidle

end Search

namespace Session

/-! ## Calls that ask nothing -/

/-- Whether a call moves the selection, folds or unfolds, and does no more. -/
def Operation.Moves : Operation → Prop
  | expandActive | collapseActive | expandAll | collapseAll | showAll _ | cycle _ | select _ => True
  | _ => False

/-- The second session has the outline of the first, but for what is unfolded in it, and is open if
the first one is. -/
structure Refolded (s s' : Session) : Prop where
  disposed : s'.disposed = s.disposed
  tree : s'.tree.setAllExpanded false = s.tree.setAllExpanded false

theorem Refolded.refl (s : Session) : s.Refolded s := ⟨rfl, rfl⟩

theorem Refolded.trans {s s' s'' : Session} (h : s.Refolded s') (h' : s'.Refolded s'') :
    s.Refolded s'' :=
  ⟨h'.disposed.trans h.disposed, h'.tree.trans h.tree⟩

theorem refolded_redrawn (s : Session) {tree : Tree} (active : Option Item)
    (h : tree.setAllExpanded false = s.tree.setAllExpanded false) :
    s.Refolded (s.redrawn tree active) where
  disposed := by rw [redrawn, disposed_publish]
  tree := by
    rw [Session.tree, redrawn, search_publish]
    exact h

theorem refolded_whileOpen {s : Session} {k : Session → Step Unit} (h : s.Refolded (k s).1) :
    s.Refolded (s.whileOpen k).1 := by
  rw [whileOpen]
  split
  · exact .refl s
  · exact h

theorem refolded_moveBy (s : Session) {f : Tree → Item → Tree × Item}
    (hf : ∀ t i, (f t i).1.setAllExpanded false = t.setAllExpanded false) :
    s.Refolded (s.moveBy f).1 := by
  refine refolded_whileOpen ?_
  split
  · exact .refl s
  · exact refolded_redrawn s _ (hf _ _)

theorem refolded_perform (s : Session) {op : Operation} (ho : op.Moves) :
    s.Refolded (s.perform op).1 := by
  cases op with
  | expandActive => exact refolded_moveBy s fun t i => Tree.setAllExpanded_expand false t s.items i
  | collapseActive => exact refolded_moveBy s (Tree.setAllExpanded_collapse false)
  | expandAll =>
    exact refolded_whileOpen
      (refolded_redrawn s s.active (Tree.setAllExpanded_setAllExpanded false true s.tree))
  | collapseAll =>
    exact refolded_whileOpen
      (refolded_redrawn s s.active (Tree.setAllExpanded_setAllExpanded false false s.tree))
  | showAll kinds =>
    exact refolded_whileOpen
      (refolded_redrawn s s.active (Tree.setAllExpanded_expandTo false _ s.tree))
  | cycle d =>
    rw [perform, cycle, quiet_whileOpen]
    exact refolded_whileOpen (refolded_redrawn s _ rfl)
  | select i =>
    refine refolded_whileOpen ?_
    split
    · rw [highlight_eq]
      exact ⟨rfl, rfl⟩
    · exact .refl s
  | type | changed | accept | dispose | arm | consume => exact ho.elim

theorem refolded_run (s : Session) {ops : List Operation} (ho : ∀ op ∈ ops, op.Moves) :
    s.Refolded (s.run ops) :=
  run_induct (P := s.Refolded) ops (fun op hop s' h => h.trans (refolded_perform s' (ho op hop)))
    (.refl s)

/-- Unfolding everything lists what is on screen of the outline with everything unfolded. -/
theorem items_expandAll {s : Session} (hd : s.disposed = false) :
    (s.perform .expandAll).1.items = Item.listed (s.tree.setAllExpanded true) := by
  rw [perform, expandAll, whileOpen_open hd, withTree, publish_eq]
  rfl

/-! ## After a query -/

/-- A session when a query has just been applied: the one remembered, as it is opened, or an edit
that the guard let through. -/
inductive Queried (o : Opening) : Session → Prop
  | opened (hok : o.unopened.openOutline.2 = .ok ()) : Queried o o.session
  | edited {before op text} (ha : (o.session.run before).guard.armed = false)
    (ho : op.edit? = some text) (hok : ((o.session.run before).perform op).2 = .ok ()) :
    Queried o ((o.session.run before).perform op).1

/-- What is known of a session when a query has just been applied: the list is what is on screen,
and the outline is what the query left, but for what is unfolded if it asked for nothing. -/
structure Settled (s : Session) : Prop where
  disposed : s.disposed = false
  items : s.items = Item.listed s.tree
  shown : s.recorder.items = s.items
  active : s.search.queryActive = true → s.tree.Trim
  idle : s.search.queryActive = false → ∃ F, s.tree.setAllExpanded false =
    (Tree.blank (Search.idleFlags s.search.mode) F).setAllExpanded false

theorem settled_publish {s : Session} (hd : s.disposed = false)
    (ha : s.search.queryActive = true → s.tree.Trim)
    (hi : s.search.queryActive = false → ∃ F, s.tree.setAllExpanded false =
      (Tree.blank (Search.idleFlags s.search.mode) F).setAllExpanded false) :
    s.publish.Settled where
  disposed := (disposed_publish s).trans hd
  items := (consistent_publish s).items
  shown := (consistent_publish s).shown
  active := by rwa [tree, search_publish]
  idle := by rwa [tree, search_publish]

/-- What a query left stays so when its symbols are unfolded. -/
theorem idle_of_apply {s search : Search} {d : Document} {raw : Text} {o : Outcome}
    (h : s.apply d raw = (search, .ok o)) (hidle : search.queryActive = false) {t : Tree}
    (ht : t.setAllExpanded false = search.tree.setAllExpanded false) :
    ∃ F, t.setAllExpanded false =
      (Tree.blank (Search.idleFlags search.mode) F).setAllExpanded false :=
  ⟨s.tree.symbols, by rw [ht, (Search.tree_of_apply h).2 hidle, (kin_of_apply h).mode]⟩

theorem settled_opening {o : Opening} (hok : o.unopened.openOutline.2 = .ok ()) :
    o.session.Settled := by
  have hd : o.unopened.disposed = false := rfl
  rcases h : o.unopened.search.apply o.unopened.document
    (o.unopened.search.memory.get o.unopened.search.mode) with ⟨search, cause | outcome⟩
  · rw [openOutline_error h] at hok
    cases hok
  · have hopen := (disposed_answered o.unopened search outcome true).trans hd
    have hsearch := search_answered o.unopened search outcome true
    rw [Opening.session, openOutline, applyQuery_ok hd h]
    dsimp only
    split
    · rename_i hactive
      refine settled_publish hopen ?_ fun hidle =>
        absurd (hidle.symm.trans hactive) Bool.false_ne_true
      rw [tree, hsearch]
      exact (Search.tree_of_apply h).1
    · rename_i hactive
      have hidle := Bool.eq_false_iff.mpr hactive
      have htree := congrArg Search.tree hsearch
      rw [hsearch] at hidle
      -- whether or not the way to a symbol is unfolded
      split
      · split
        · refine settled_publish hopen (fun ha => absurd ha hactive) fun _ => ?_
          rw [hsearch]
          exact idle_of_apply h hidle
            ((Tree.setAllExpanded_expandAbove false _ _).trans (congrArg _ htree))
        · refine settled_publish hopen (fun ha => absurd ha hactive) fun _ => ?_
          rw [hsearch]
          exact idle_of_apply h hidle (congrArg _ htree)
      · refine settled_publish hopen (fun ha => absurd ha hactive) fun _ => ?_
        rw [hsearch]
        exact idle_of_apply h hidle (congrArg _ htree)

theorem Queried.settled {o : Opening} {s : Session} (h : Queried o s) : s.Settled := by
  cases h with
  | opened hok => exact settled_opening hok
  | @edited before op text ha ho hok =>
    have hl : (o.session.run before).recorder.listening = true :=
      run_induct (P := fun s => s.recorder.listening = true) before
        (fun op _ s hl => (listening_perform s op).trans hl) (logged_opening o).2
    obtain ⟨search, outcome, h, hd, hp⟩ := edit_ok hl ha ho hok
    rw [hp]
    refine settled_publish ((disposed_answered ..).trans hd) ?_ ?_
    · rw [tree, search_answered]
      exact (Search.tree_of_apply h).1
    · rw [tree, search_answered]
      exact fun hidle => idle_of_apply h hidle rfl

theorem Queried.mode {o : Opening} {s : Session} (h : Queried o s) : s.search.mode = o.mode := by
  have hopen := congrArg Prod.fst (reads_opening o)
  cases h with
  | opened => exact hopen
  | edited =>
    rename_i before op text _ _ _
    have hrun : (o.session.run before).reads = o.session.reads :=
      run_induct (P := fun s => s.reads = o.session.reads) before
        (fun op _ s hs => (reads_perform s op).trans hs) rfl
    exact (congrArg Prod.fst ((reads_perform _ op).trans hrun)).trans hopen

/-- An outline that only folding has changed is the same again with everything unfolded. -/
theorem Refolded.unfolded {s s' : Session} (h : s.Refolded s') :
    s'.tree.setAllExpanded true = s.tree.setAllExpanded true := by
  rw [← Tree.setAllExpanded_setAllExpanded true false, h.tree,
    Tree.setAllExpanded_setAllExpanded]

theorem Refolded.unhidden {s s' : Session} (h : s.Refolded s') :
    Item.unhidden s'.tree = Item.unhidden s.tree := by
  rw [← Item.unhidden_setAllExpanded false s'.tree, h.tree, Item.unhidden_setAllExpanded]

theorem Refolded.symbols {s s' : Session} (h : s.Refolded s') :
    Item.symbols s'.tree = Item.symbols s.tree := by
  rw [← Item.symbols_setAllExpanded false s'.tree, h.tree, Item.symbols_setAllExpanded]

/-- Unfolded, what a query left is laid out. -/
theorem Settled.laid {s : Session} (h : s.Settled) : (s.tree.setAllExpanded true).Laid := by
  cases ha : s.search.queryActive with
  | true => exact (Tree.laid_of_trim (h.active ha)).unfolded
  | false =>
    obtain ⟨F, hF⟩ := h.idle ha
    rw [← Tree.setAllExpanded_setAllExpanded true false, hF, Tree.setAllExpanded_setAllExpanded]
    exact Search.laid_unfolded_idle s.search.mode F

/-- What a query left unhidden: what it listed, or without one every symbol or nothing. -/
theorem Settled.unhidden {s : Session} (h : s.Settled) :
    Item.unhidden s.tree =
      if s.search.queryActive then s.recorder.items
      else if s.search.mode = .symbol then Item.symbols s.tree else [] := by
  split
  · rename_i ha
    rw [h.shown, h.items, Item.listed_of_laid (Tree.laid_of_trim (h.active ha))]
  · rename_i ha
    obtain ⟨F, hF⟩ := h.idle (Bool.eq_false_iff.mpr ha)
    rw [← Item.unhidden_setAllExpanded false, ← Item.symbols_setAllExpanded false, hF,
      Item.unhidden_setAllExpanded, Item.symbols_setAllExpanded, Search.idleFlags]
    split
    · exact Item.unhidden_blank F
    · exact Item.unhidden_blank_hidden F

/-- **Folding loses no results.** Whatever is moved to, folded or unfolded after a query, the
outline is what the query left but for what is unfolded in it. To unfold everything then lists every
node that is not hidden: with a query in force the list shown right after it, without one every
symbol if symbols are searched and nothing otherwise. -/
theorem folding_keeps_results {o : Opening} {s : Session} (hs : Queried o s)
    {moves : List Operation} (hm : ∀ op ∈ moves, op.Moves) :
    let s' := s.run moves
    s'.tree.setAllExpanded false = s.tree.setAllExpanded false ∧
      (s'.perform .expandAll).2 = .ok () ∧
      (s'.perform .expandAll).1.items = Item.unhidden s'.tree ∧
      Item.unhidden s'.tree =
        if s.search.queryActive then s.recorder.items
        else if o.mode = .symbol then Item.symbols s'.tree else [] := by
  intro s'
  have hsettled := hs.settled
  have hfold : s.Refolded s' := refolded_run s hm
  have hd : s'.disposed = false := hfold.disposed.trans hsettled.disposed
  refine ⟨hfold.tree, ?_, ?_, ?_⟩
  · rw [perform, expandAll, whileOpen_open hd]
  · calc (s'.perform .expandAll).1.items
      _ = Item.listed (s'.tree.setAllExpanded true) := items_expandAll hd
      _ = Item.listed (s.tree.setAllExpanded true) := by rw [hfold.unfolded]
      _ = Item.unhidden (s.tree.setAllExpanded true) := Item.listed_of_laid hsettled.laid
      _ = Item.unhidden s'.tree := by rw [Item.unhidden_setAllExpanded, hfold.unhidden]
  · rw [hfold.unhidden, hfold.symbols, ← hs.mode]
    exact hsettled.unhidden

/-- After a search for an `m`, folding everything and moving on lose nothing: the class and its
method are listed when everything is unfolded again. -/
theorem folding_keeps_results_sample :
    let s := sample.session.run [.type ['m']]
    let s' := s.run [.collapseAll, .cycle .next, .expandActive, .collapseActive]
    s'.items = [.present [0]] ∧
      (s'.perform .expandAll).1.items = [.present [0], .present [0, 2]] := by
  have hok : (sample.session.perform (.type ['m'])).2 = .ok () := by decide +kernel
  have hs : Queried sample (sample.session.run [.type ['m']]) :=
    @Queried.edited sample [] _ _ (unarmed_opening sample) rfl hok
  have hm : ∀ op ∈ [Operation.collapseAll, .cycle .next, .expandActive, .collapseActive],
      op.Moves := by simp [Operation.Moves]
  obtain ⟨-, -, hitems, hresults⟩ := folding_keeps_results hs hm
  refine ⟨by decide +kernel, hitems.trans (hresults.trans ?_)⟩
  decide +kernel

end Session

end Outline
