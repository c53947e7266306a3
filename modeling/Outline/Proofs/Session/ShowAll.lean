import Mathlib.Data.List.Basic
import Outline.Proofs.Session.Folding
import Outline.Proofs.Tree.Ancestors
import Outline.Proofs.Tree.Effect

/-!
# Showing all symbols of some kinds

The ways to all symbols of some kinds are unfolded and nothing else is changed. Whatever was done to
a session, its outline is laid out once it is unfolded (`laid_run`): a query shows the ways to what
it shows, and folding hides nothing. So the symbols are on screen then (`shows_expandTo`). What is
listed beyond what was on screen lies below a node that has been unfolded (`newly_shown_expandTo`),
and what was on screen stays there (`listed_sublist_expandTo`). A list is lost only where it was not
what is on screen, after a query that ended early (`showAll_lists`, `showAll_astray`).
-/
namespace Outline

namespace Tree

variable {P : Symbol → Bool} {t : Tree} {p q : Path} {n : Node}

/-! ## Unfolding the ways to symbols -/

/-- What is not hidden has nothing hidden above it, if the outline is laid out once it is unfolded.
-/
theorem unhidden_above (h : (t.setAllExpanded true).Laid) (hn : t.node? p = some n)
    (hshown : n.flags.hidden = false) (hq : q.Above p) {m : Node} (hm : t.node? q = some m) :
    m.flags.hidden = false := by
  set g : Flags → Flags := ({ · with expanded := true }) with hg
  have hunfolded : ∀ {q' n'}, t.node? q' = some n' →
      (t.setAllExpanded true).node? q' = some (n'.mapFlags g) := fun hn' => by
    rw [setAllExpanded, node?_mapFlags, hn', Option.map_some]
  have hvisible : p ∈ (t.setAllExpanded true).visible.map (·.path) := by
    have hrow : ⟨p, n.mapFlags g⟩ ∈ (t.setAllExpanded true).preorder :=
      mem_preorder.mpr (hunfolded hn)
    rw [visible_of_laid h]
    exact List.mem_map_of_mem (List.mem_filter.mpr
      ⟨hrow, by rw [Node.flags_mapFlags, hg, hshown]; rfl⟩)
  obtain ⟨-, -, -, hopen⟩ := shows_iff.mp (mem_map_path_visible.mp hvisible)
  have hboth := hopen q _ hq (hunfolded hm)
  rw [Node.flags_mapFlags] at hboth
  exact hboth.1

/-- A node of an outline unfolded to some symbols, and what it was before. -/
theorem of_node?_expandTo (h : (t.expandTo P).node? p = some n) :
    ∃ m, t.node? p = some m ∧ n.flags.hidden = m.flags.hidden ∧ n.symbol? = m.symbol? ∧
      n.flags.expanded = (m.flags.expanded || (t.childrenAt p).anySymbol P) := by
  rw [node?_expandTo] at h
  obtain ⟨m, hm, rfl⟩ := Option.map_eq_some_iff.mp h
  refine ⟨m, hm, ?_⟩
  split
  · rename_i hany
    rw [Node.flags_mapFlags, Node.symbol?_mapFlags, hany, Bool.or_true]
    exact ⟨rfl, rfl, rfl⟩
  · rename_i hnone
    rw [Bool.eq_false_iff.mpr hnone, Bool.or_false]
    exact ⟨rfl, rfl, rfl⟩

/-- Whether there is a symbol with the property below a node. -/
theorem anySymbol_childrenAt : (t.childrenAt p).anySymbol P = true ↔
    ∃ q s f, p.Above q ∧ t.node? q = some (.symbol s f) ∧ P s = true := by
  rw [anySymbol_iff]
  constructor
  · rintro ⟨q, s, f, hq, hP⟩
    have hne : q ≠ [] := fun he => by simp [he] at hq
    exact ⟨p ++ q, s, f, ⟨List.prefix_append p q, by simpa using hne⟩,
      by rwa [node?_append t p hne], hP⟩
  · rintro ⟨_, s, f, ⟨⟨q, rfl⟩, hne⟩, hq, hP⟩
    have hne : q ≠ [] := by simpa using hne
    exact ⟨q, s, f, by rwa [← node?_append t p hne], hP⟩

/-- A symbol with the property that is not hidden is on screen when the ways to all such symbols are
unfolded. -/
theorem shows_expandTo (h : (t.setAllExpanded true).Laid) {s : Symbol} {f : Flags}
    (hn : (t.expandTo P).node? p = some (.symbol s f)) (hP : P s = true)
    (hshown : f.hidden = false) : (t.expandTo P).shows p = true := by
  obtain ⟨m, hm, hhidden, hsymbol, -⟩ := of_node?_expandTo hn
  rw [shows_iff]
  refine ⟨_, hn, hshown, fun q n hq hnode => ?_⟩
  obtain ⟨k, hk, hkhidden, -, hexpanded⟩ := of_node?_expandTo hnode
  refine ⟨hkhidden.trans (unhidden_above h hm (hhidden.symm.trans hshown) hq hk), ?_⟩
  obtain ⟨s', f', rfl⟩ : ∃ s' f', m = .symbol s' f' := by
    cases m with
    | symbol s' f' => exact ⟨s', f', rfl⟩
    | leaf => cases hsymbol
  obtain rfl : s = s' := by simpa [Node.symbol?] using hsymbol
  rw [hexpanded, anySymbol_childrenAt.mpr ⟨p, s, f', hq, hm, hP⟩, Bool.or_true]

/-- What is on screen only when the ways to symbols are unfolded lies below a node that is above one
of them. -/
theorem newly_shown_expandTo (hafter : (t.expandTo P).shows p = true)
    (hbefore : t.shows p = false) :
    ∃ q : Path, q.Above p ∧ ∃ r s f, q.Above r ∧ t.node? r = some (.symbol s f) ∧ P s = true := by
  obtain ⟨n, hn, hshown, hopen⟩ := shows_iff.mp hafter
  obtain ⟨m, hm, hhidden, -⟩ := of_node?_expandTo hn
  by_contra hnone
  refine absurd (shows_iff.mpr ⟨m, hm, hhidden ▸ hshown, fun q k hq hk => ?_⟩)
    (Bool.eq_false_iff.mp hbefore)
  -- there is no such symbol below any node above, so all of these were unfolded before
  have hany : (t.childrenAt q).anySymbol P = false := by
    rw [← Bool.not_eq_true, anySymbol_childrenAt]
    exact fun h => hnone ⟨q, hq, h⟩
  obtain ⟨k', hk'⟩ : ∃ k', (t.expandTo P).node? q = some k' := by
    rw [node?_expandTo, hk]
    exact ⟨_, rfl⟩
  obtain ⟨_, hsame, hkhidden, -, hexpanded⟩ := of_node?_expandTo hk'
  obtain rfl := Option.some.inj (hk.symm.trans hsame)
  rw [hany, Bool.or_false] at hexpanded
  exact hkhidden ▸ hexpanded ▸ hopen q k' hq hk'

/-- What was on screen stays there, in its order. -/
theorem listed_sublist_expandTo (P : Symbol → Bool) (t : Tree) :
    (Item.listed t).Sublist (Item.listed (t.expandTo P)) := by
  have hpaths : (t.expandTo P).paths = t.paths :=
    paths_of_mapFlags (setAllExpanded_expandTo false P t)
  rw [Item.listed_eq, Item.listed_eq, hpaths]
  exact (List.monotone_filter_right _ fun p hp => (unfolds_expandTo P t).shows hp).map _

/-- Where everything is hidden, nothing is on screen. -/
theorem listed_of_allHidden (h : t.allHidden = true) : Item.listed t = [] := by
  rw [List.eq_nil_iff_forall_not_mem]
  intro i hi
  obtain ⟨p, rfl, hp⟩ := Item.mem_listed.mp hi
  obtain ⟨n, hn, hshown, -⟩ := shows_iff.mp hp
  have hmem : n ∈ t.nodes := by
    rw [← map_node_preorder]
    exact List.mem_map_of_mem ((mem_preorder (r := ⟨p, n⟩)).mpr hn)
  have hhidden := List.all_eq_true.mp h n hmem
  rw [hshown] at hhidden
  cases hhidden

end Tree

namespace Search

/-- Whatever is asked, the outline is laid out afterwards once it is unfolded. -/
theorem laid_apply {s s' : Search} {d : Document} {raw : Text} {r : Except Abort Outcome}
    (h : s.apply d raw = (s', r)) : (s'.tree.setAllExpanded true).Laid := by
  cases r with
  | error cause =>
    rw [apply_error h]
    exact (Tree.laid_of_trim (Tree.trim_blank _)).unfolded
  | ok o =>
    obtain ⟨htrim, hidle⟩ := tree_of_apply h
    cases ha : s'.queryActive with
    | true => exact (Tree.laid_of_trim (htrim ha)).unfolded
    | false =>
      rw [hidle ha]
      exact laid_unfolded_idle s.mode s.tree.symbols

end Search

namespace Session

/-! ## What is known at any time -/

/-- A report either leaves the outline alone or applies its query. -/
theorem tree_queryChanged (s : Session) (text : Text) :
    (s.queryChanged text).1.tree = s.tree ∨
      ∃ search r, s.search.apply s.document text = (search, r) ∧
        (s.queryChanged text).1.tree = search.tree := by
  cases hd : s.disposed with
  | true =>
    rw [queryChanged_disposed hd]
    exact Or.inl rfl
  | false =>
    cases ha : s.guard.armed with
    | true =>
      rw [queryChanged_armed hd ha]
      exact Or.inl rfl
    | false =>
      rcases h : s.search.apply s.document text with ⟨search, cause | o⟩
      · rw [queryChanged_error hd ha h]
        exact Or.inr ⟨search, _, rfl, rfl⟩
      · rw [queryChanged_ok hd ha h, tree, search_publish, search_answered]
        exact Or.inr ⟨search, _, rfl, rfl⟩

/-- Every call leaves an outline that is laid out once it is unfolded: one that a query leaves is,
and the other calls do no more than fold. -/
theorem laid_perform {s : Session} (h : (s.tree.setAllExpanded true).Laid) (op : Operation) :
    ((s.perform op).1.tree.setAllExpanded true).Laid := by
  have hreport : ∀ (s : Session) (text : Text), (s.tree.setAllExpanded true).Laid →
      ((s.queryChanged text).1.tree.setAllExpanded true).Laid := by
    intro s text h
    obtain hsame | ⟨search, r, happly, htree⟩ := tree_queryChanged s text
    · rwa [hsame]
    · rw [htree]
      exact Search.laid_apply happly
  have hmoves : op.Moves → ((s.perform op).1.tree.setAllExpanded true).Laid := fun ho => by
    rwa [(refolded_perform s ho).unfolded]
  cases op with
  | type text =>
    rw [perform, typeQuery, reportQuery]
    split
    · exact hreport _ text h
    · exact h
  | changed text => exact hreport s text h
  | select | expandActive | collapseActive | expandAll | collapseAll | showAll | cycle =>
    exact hmoves trivial
  | accept =>
    rw [perform, accept, quiet_whileOpen, whileOpen]
    split
    · exact h
    · split
      · exact h
      · rw [Step.quiet, tree, search_dispose]
        exact h
  | dispose =>
    rw [perform, tree, search_dispose]
    exact h
  | arm | consume => exact h

/-- The list is what is on screen, unless everything is hidden. -/
def Current (s : Session) : Prop := s.items = Item.listed s.tree ∨ s.tree.allHidden = true

theorem current_perform {s : Session} (h : s.Current) (op : Operation) :
    (s.perform op).1.Current := by
  have hm : (s.met op).Current := by cases op <;> exact h
  have hd := does_perform s op
  generalize s.perform op = r at hd ⊢
  cases hd with
  | refused | nothing | hushed | armed | accepted | closed => exact hm
  | broken _ _ h =>
    have htree : ((s.met op).broken _).tree = (s.met op).search.bare := Search.apply_error h
    refine Or.inr ?_
    rw [htree]
    exact Tree.allHidden_of_trim (Tree.trim_blank _) (Tree.hasResult_blank _)
  | answered | redrawn => exact Or.inl (consistent_publish _).items
  | pointed =>
    rw [highlight_eq]
    exact hm

theorem laid_opening (o : Opening) : (o.session.tree.setAllExpanded true).Laid := by
  rcases h : o.unopened.search.apply o.unopened.document
    (o.unopened.search.memory.get o.unopened.search.mode) with ⟨search, cause | outcome⟩
  · rw [Opening.session, openOutline_error h]
    exact Search.laid_apply h
  · obtain ⟨tree, active, hopen⟩ := openOutline_ok (s := o.unopened) rfl h
    exact (settled_opening (congrArg Prod.snd hopen)).laid

/-- The outline of a session that was opened is laid out at any time once it is unfolded, and the
list is what is on screen unless everything is hidden. -/
theorem laid_run (o : Opening) (ops : List Operation) :
    ((o.session.run ops).tree.setAllExpanded true).Laid ∧ (o.session.run ops).Current :=
  run_induct (P := fun s => (s.tree.setAllExpanded true).Laid ∧ s.Current) ops
    (fun op _ _ h => ⟨laid_perform h.1 op, current_perform h.2 op⟩)
    ⟨laid_opening o, Or.inl (consistent_opening o).items⟩

/-- The list is what is on screen if no query ended early while something was listed. -/
theorem consistent_run (o : Opening) {ops : List Operation}
    (h : ∀ done op, done ++ [op] <+: ops →
      (o.session.run done).Aborts op → (o.session.run done).items = []) :
    (o.session.run ops).Consistent := by
  induction ops using List.reverseRecOn with
  | nil => exact consistent_opening o
  | append_singleton done op ih =>
    have hbefore := ih fun done' op' hpre => h done' op' (hpre.trans (List.prefix_append ..))
    rw [run_append]
    exact (consistent_perform hbefore op).mpr (h done op (List.prefix_refl _))

/-! ## Showing all symbols of some kinds -/

/-- **Showing all symbols of some kinds.** In an open session this is not refused and changes
nothing of the outline but what is unfolded. Every symbol of one of the kinds that is not hidden is
listed then, and all that is newly listed lies below a node above some symbol of one of the kinds.
What was listed is listed still, in its order, if and only if the list was what is on screen, and so
unless a query ended early while something was listed. -/
theorem showAll_lists (o : Opening) (ops : List Operation) (kinds : List Kind)
    (hd : (o.session.run ops).disposed = false) :
    let s := o.session.run ops
    let s' := (s.showAll kinds).1
    (s.showAll kinds).2 = .ok () ∧
    s'.tree.setAllExpanded false = s.tree.setAllExpanded false ∧
    (∀ p sym f, s'.tree.node? p = some (.symbol sym f) → sym.kind ∈ kinds → f.hidden = false →
      .present p ∈ s'.items) ∧
    (∀ i ∈ s'.items, i ∉ s.items → ∃ p q : Path, i = .present p ∧ q.Above p ∧
      ∃ r sym f, q.Above r ∧ s.tree.node? r = some (.symbol sym f) ∧ sym.kind ∈ kinds) ∧
    (s.items.Sublist s'.items ↔ s.items = Item.listed s.tree) ∧
    ((∀ done op, done ++ [op] <+: ops →
        (o.session.run done).Aborts op → (o.session.run done).items = []) →
      s.items.Sublist s'.items) := by
  intro s s'
  set P : Symbol → Bool := (kinds.contains ·.kind) with hP
  obtain ⟨hlaid, hcurrent⟩ := laid_run o ops
  have hstep : s.showAll kinds = (s.withTree (Tree.expandTo P), .ok ()) := by
    rw [showAll, whileOpen_open hd]
  have hs' : s' = s.withTree (Tree.expandTo P) := congrArg Prod.fst hstep
  have htree : s'.tree = s.tree.expandTo P := by rw [hs', withTree, tree, search_publish]
  have hitems : s'.items = Item.listed (s.tree.expandTo P) := by
    rw [hs', withTree, (consistent_publish _).items, tree, search_publish]
  have hsublist : (Item.listed s.tree).Sublist s'.items :=
    hitems ▸ Tree.listed_sublist_expandTo P s.tree
  have hgone : s.tree.allHidden = true → s'.items = [] := fun hall => by
    rw [hitems]
    refine Tree.listed_of_allHidden ?_
    rw [← Tree.allHidden_setAllExpanded false, Tree.setAllExpanded_expandTo,
      Tree.allHidden_setAllExpanded, hall]
  refine ⟨by rw [hstep], ?_, ?_, ?_, ⟨?_, ?_⟩, ?_⟩
  · rw [htree]
    exact Tree.setAllExpanded_expandTo false P s.tree
  · intro p sym f hn hkind hshown
    rw [htree] at hn
    rw [hitems, Item.present_mem_listed]
    exact Tree.shows_expandTo hlaid hn (by rw [hP]; simpa using hkind) hshown
  · intro i hi hnew
    rcases hcurrent with hlisted | hall
    · rw [hitems] at hi
      obtain ⟨p, rfl, hp⟩ := Item.mem_listed.mp hi
      rw [hlisted, Item.present_mem_listed, Bool.not_eq_true] at hnew
      obtain ⟨q, hq, r, sym, f, hr, hn, hkind⟩ := Tree.newly_shown_expandTo hp hnew
      exact ⟨p, q, rfl, hq, r, sym, f, hr, hn, by simpa [hP] using hkind⟩
    · rw [hgone hall] at hi
      cases hi
  · intro hsub
    rcases hcurrent with hlisted | hall
    · exact hlisted
    · -- nothing is listed afterwards, and so nothing was
      rw [hgone hall, List.sublist_nil] at hsub
      rw [hsub, Tree.listed_of_allHidden hall]
  · intro h
    rwa [h]
  · intro h
    rw [(consistent_run o h).items]
    exact hsublist

/-- A search for an `m` and then folding leave the class alone on the list; to show all methods
lists its method behind it. -/
theorem showAll_lists_sample :
    let s := sample.session.run [.type ['m'], .collapseAll]
    s.items = [.present [0]] ∧ (s.showAll [.method]).1.items = [.present [0], .present [0, 2]] ∧
      s.items.Sublist (s.showAll [.method]).1.items := by
  obtain ⟨-, -, -, -, hkept, -⟩ :=
    showAll_lists sample [.type ['m'], .collapseAll] [.method] (by decide +kernel)
  exact ⟨by decide +kernel, by decide +kernel, hkept.mpr (by decide +kernel)⟩

/-- After a query that ended early the class is on the list still; to show all classes takes it off
the list. -/
theorem showAll_astray :
    let s := sample.session.run [.type "/(?a)(?u)/".toList]
    s.disposed = false ∧ s.items = [.present [0]] ∧ (s.showAll [.class]).1.items = [] ∧
      ¬s.items.Sublist (s.showAll [.class]).1.items := by
  have hitems : (sample.session.run [.type "/(?a)(?u)/".toList]).items = [.present [0]] := by
    decide +kernel
  have hnone : ((sample.session.run [.type "/(?a)(?u)/".toList]).showAll
      [.class]).1.items = [] := by decide +kernel
  refine ⟨by decide +kernel, hitems, hnone, ?_⟩
  rw [hitems, hnone, List.sublist_nil]
  exact List.cons_ne_nil _ _

end Session

end Outline
