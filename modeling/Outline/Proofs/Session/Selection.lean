import Outline.Proofs.Search.Nearest
import Outline.Proofs.Session.Folding
import Outline.Proofs.Tree.Ancestors

/-!
# What is selected

After a query the selection is looked for among the rows on screen. A query in force shows all its
results (`results_of_trim`) and an outline without one shows its roots (`visible_blank_folded`), so
what is selected is the nearest of all of these (`selection_after_edit`). A session that is opened
with no query to restore looks again among all symbols and unfolds the way to the nearest one
(`opens_at_nearest`).
-/
namespace Outline

namespace Search

/-- The sentinel alone, or nothing, asks for nothing. -/
theorem asked_eq_none {s : Search} (hs : s.sentinel.length ≤ 1) {raw : Text}
    (hraw : raw = [] ∨ raw = s.sentinel) : s.asked raw = .none := by
  have hprompt : s.prompt raw = s.sentinel := by
    rw [prompt_eq]
    rcases hraw with rfl | rfl
    · split
      · rename_i hpre
        exact (List.prefix_nil.mp hpre).symm
      · exact List.append_nil _
    · rw [if_pos (List.prefix_refl _)]
  rw [asked, hprompt, Query.parse, if_pos hs]

end Search

@[simp] theorem Document.effectiveLine_mapFlags (d : Document) (g : Flags → Flags) (n : Node) :
    d.effectiveLine (n.mapFlags g) = d.effectiveLine n := by cases n <;> rfl

/-! ## Rows to select from -/

namespace Tree

open Navigation (considered)

/-- A query in force shows all its results. -/
theorem results_of_trim {t : Tree} (ht : t.Trim) :
    t.visible.filter (considered true) = t.preorder.filter (·.node.flags.result) := by
  have hlaid := visible_of_laid (laid_of_trim ht)
  rw [hlaid, List.filter_filter]
  refine List.filter_congr fun r hr => ?_
  cases hresult : r.node.flags.result with
  | false => simp [considered, hresult]
  | true =>
    -- a result is on screen, and so it is not hidden
    have hmem : r ∈ t.visible := by
      rw [visible_of_trim ht]
      exact List.mem_filter.mpr ⟨hr, by rw [leads, hresult, Bool.true_or]⟩
    rw [hlaid] at hmem
    have hshown : r.node.flags.hidden = false := by simpa using (List.mem_filter.mp hmem).2
    simp [considered, hresult, hshown]

section

variable (F : SymbolForest)

theorem visible_blank_folded (hF : F.Deep 0) :
    (blank {} F).visible = (blank {} F).preorder.filter (·.depth == 0) := by
  refine visible_of_folded ((deep_blank {}).mpr hF) fun r hr => ?_
  obtain ⟨s, hs⟩ := node_of_mem_preorder_blank hr
  rw [hs]
  exact ⟨rfl, rfl⟩

/-- Where nothing is hidden, every row is considered. -/
theorem considered_blank {rows : List Row} (hrows : rows ⊆ (blank {} F).preorder) :
    rows.filter (considered false) = rows := by
  rw [List.filter_eq_self]
  intro r hr
  obtain ⟨s, hs⟩ := node_of_mem_preorder_blank (hrows hr)
  rw [considered, hs]
  rfl

theorem preorder_blank_eq_nil : (blank {} F).preorder = [] ↔ F = .nil := by
  rw [preorder_eq]
  cases F with
  | nil => simp [blank, rowsFrom]
  | cons => simp [blank, rowsFrom]

theorem roots_blank_eq_nil (hF : F.Deep 0) :
    (blank {} F).preorder.filter (·.depth == 0) = [] ↔ F = .nil := by
  rw [preorder_eq]
  cases F with
  | nil => simp [blank, rowsFrom]
  | cons s cs rest =>
    have hs : s.depth = 0 := hF.1
    simp [blank, rowsFrom, Row.depth, Node.depth, hs]

theorem symbols_insertByStart_ne_nil (s : Symbol) (cs t : Tree) :
    (insertByStart s cs t).symbols ≠ .nil := by
  induction t with
  | nil => simp [insertByStart, symbols]
  | symbol s' f cs' rest =>
    rw [insertByStart]
    split <;> simp [symbols]
  | leaf l f rest ih => exact ih

theorem symbols_build_eq_nil : (build F).symbols = .nil ↔ F = .nil := by
  cases F with
  | nil => simp [build, sortLevels, SymbolForest.placed, symbols]
  | cons s cs rest =>
    simpa [build, sortLevels, SymbolForest.placed] using symbols_insertByStart_ne_nil _ _ _

end

end Tree

namespace Session

open Navigation (Nearest considered closest)

/-! ## After a query -/

/-- The nearest to the cursor of some rows is selected, the last of these, and it is listed; nothing
is selected if there are no such rows. -/
structure SelectsNearest (s : Session) (d : Document) (cursor : Int) (rows : List Row) : Prop where
  nearest : ∀ i, s.active = some i →
    i ∈ s.items ∧ ∃ r, i = .present r.path ∧ Nearest d cursor rows r
  none_iff : s.active = none ↔ rows = []

/-- Showing gives up no selection that is on screen. -/
theorem active_publish_of_listed {s : Session}
    (h : ∀ i, s.active = some i → i ∈ Item.listed s.tree) : s.publish.active = s.active := by
  cases ha : s.active with
  | none => rw [publish_eq]; simp [ha]
  | some i => exact active_publish ha (h i ha)

/-- What a query shows holds what is selected then. -/
theorem selectsNearest_answered (s : Session) (search : Search) (o : Outcome) :
    (s.answered search o false).publish.SelectsNearest s.document s.cursor
      (search.tree.visible.filter (considered search.queryActive)) := by
  set found := closest s.document s.cursor search.queryActive search.tree.visible with hfound
  have hactive : (s.answered search o false).active = found.map (.present ·.path) :=
    active_answered s search o false
  have hnearest : ∀ r, found = some r → Nearest s.document s.cursor
      (search.tree.visible.filter (considered search.queryActive)) r :=
    fun r hr => Navigation.nearest_of_closest hr
  have hlisted : ∀ i, (s.answered search o false).active = some i →
      i ∈ Item.listed search.tree := by
    intro i hi
    obtain ⟨r, hr, rfl⟩ := Option.map_eq_some_iff.mp (hactive ▸ hi)
    exact List.mem_map_of_mem (List.mem_filter.mp (hnearest r hr).mem).1
  have htree : (s.answered search o false).tree = search.tree := by rw [tree, search_answered]
  have hkept := active_publish_of_listed (s := s.answered search o false) (by rwa [htree])
  have hitems : (s.answered search o false).publish.items = Item.listed search.tree := by
    rw [(consistent_publish _).items, tree, search_publish, search_answered]
  refine ⟨fun i hi => ?_, ?_⟩
  · rw [hkept] at hi
    refine ⟨hitems ▸ hlisted i hi, ?_⟩
    obtain ⟨r, hr, rfl⟩ := Option.map_eq_some_iff.mp (hactive ▸ hi)
    exact ⟨r, rfl, hnearest r hr⟩
  · rw [hkept, hactive, Option.map_eq_none_iff, hfound]
    exact Navigation.closest_eq_none_iff

/-- Between the calls of a run the outline, the document and the cursor are those that the session
was opened with. -/
theorem stands_run (o : Opening) (calls : List Operation) :
    (o.session.run calls).search.Kin o.unopened.search ∧
      (o.session.run calls).place = (o.document, o.cursor) ∧
      (o.session.run calls).recorder.listening = true := by
  refine run_induct (P := fun s => s.search.Kin o.unopened.search ∧
    s.place = (o.document, o.cursor) ∧ s.recorder.listening = true) calls ?_
    ⟨kin_openOutline rfl, place_opening o, (logged_opening o).2⟩
  rintro op - s ⟨hk, hp, hl⟩
  exact ⟨(kin_perform s op).trans hk, (place_perform s op).trans hp,
    (listening_perform s op).trans hl⟩

/-- **What is selected after a query.** After every edit that the guard lets through and that raises
nothing, the selection is listed and the nearest to the cursor, the last of the nearest: of all
results of the outline if a query is in force, and else of the roots if symbols are searched.
Nothing is selected if and only if there is no result, or without a query no symbol at all; and
nothing if no query is in force and lines are searched. -/
theorem selection_after_edit (o : Opening) (calls : List Operation) {op : Operation} {text : Text}
    (ho : op.edit? = some text) (ha : (o.session.run calls).guard.armed = false)
    (hok : ((o.session.run calls).perform op).2 = .ok ()) :
    let s := ((o.session.run calls).perform op).1
    let results := s.tree.preorder.filter (·.node.flags.result)
    let roots := s.tree.preorder.filter (·.depth == 0)
    (s.search.queryActive = true → s.SelectsNearest o.document o.cursor results) ∧
    (s.search.queryActive = false → o.mode = .symbol →
      s.SelectsNearest o.document o.cursor roots ∧ (roots = [] ↔ o.forest = .nil)) ∧
    (s.search.queryActive = false → o.mode ≠ .symbol → s.active = none) := by
  intro s results roots
  obtain ⟨hkin, hplace, hl⟩ := stands_run o calls
  obtain ⟨search, outcome, happly, -, hs⟩ := edit_ok hl ha ho hok
  set before := (o.session.run calls).met op with hbefore
  have hsearch : before.search = (o.session.run calls).search := by cases op <;> rfl
  have hmet : before.place = (o.document, o.cursor) := hplace ▸ by cases op <;> rfl
  obtain ⟨hd, hc⟩ := Prod.mk.inj hmet
  have hselects := selectsNearest_answered before search outcome
  rw [hd, hc, ← hs] at hselects
  have hafter : s.search = search := by
    show ((o.session.run calls).perform op).1.search = search
    rw [hs, search_publish, search_answered]
  have htree : s.tree = search.tree := congrArg Search.tree hafter
  obtain ⟨htrim, hidle⟩ := Search.tree_of_apply happly
  rw [hsearch, hkin.mode, hkin.symbols] at hidle
  replace hidle : search.queryActive = false →
      search.tree = Tree.blank (Search.idleFlags o.mode) (Tree.build o.forest).symbols := hidle
  rw [hafter]
  refine ⟨fun hactive => ?_, fun hinactive hmode => ?_, fun hinactive hmode => ?_⟩
  · rw [hactive, Tree.results_of_trim (htrim hactive), ← htree] at hselects
    exact hselects
  · have hblank : s.tree = Tree.blank {} (Tree.build o.forest).symbols := by
      rw [htree, hidle hinactive, Search.idleFlags, if_pos hmode]
    have hroots : roots = s.tree.preorder.filter (·.depth == 0) := rfl
    have hdeep := (Tree.deep_build o.forest).symbols
    rw [hinactive, ← htree, hblank, Tree.visible_blank_folded _ hdeep,
      Tree.considered_blank _ List.filter_sublist.subset, ← hblank] at hselects
    refine ⟨hselects, ?_⟩
    rw [hroots, hblank, Tree.roots_blank_eq_nil _ hdeep, Tree.symbols_build_eq_nil]
  · rw [hidle hinactive, Search.idleFlags, if_neg hmode, Tree.visible_blank] at hselects
    exact hselects.none_iff.mpr rfl

/-- After a search for an `m` the method is selected: the cursor is in the first line, and the
method is the only result. -/
theorem selection_after_edit_sample :
    (sample.session.run []).guard.armed = false ∧
      ((sample.session.run []).perform (.type ['m'])).1.search.queryActive = true ∧
      ((sample.session.run []).perform (.type ['m'])).1.active = some (.present [0, 2]) ∧
      ((sample.session.run []).perform (.type ['m'])).1.SelectsNearest sample.document sample.cursor
        (((sample.session.run []).perform (.type ['m'])).1.tree.preorder.filter
          (·.node.flags.result)) := by
  have ha : (sample.session.run []).guard.armed = false := unarmed_opening sample
  have hactive : ((sample.session.run []).perform (.type ['m'])).1.search.queryActive = true := by
    decide +kernel
  have ho : (Operation.type ['m']).edit? = some ['m'] := rfl
  obtain ⟨hresults, -⟩ := selection_after_edit sample [] ho ha (by decide +kernel)
  exact ⟨ha, hactive, by decide +kernel, hresults hactive⟩

/-! ## As it is opened -/

/-- An outline whose names are searched, opened with no query to apply: the selection is looked for
among all rows, and the way to it is unfolded. -/
theorem openOutline_idle {s : Session} (hd : s.disposed = false) {search : Search} {o : Outcome}
    (h : s.search.apply s.document (s.search.memory.get s.search.mode) = (search, .ok o))
    (hidle : search.queryActive = false) (hmode : search.mode = .symbol) {r : Row}
    (hr : closest s.document s.cursor false search.tree.preorder = some r) :
    s.openOutline =
      ((s.answered search o true).redrawn (search.tree.expandAbove r.path)
        (some (.present r.path)), .ok ()) := by
  obtain ⟨hdocument, hcursor⟩ := Prod.mk.inj (place_answered s search o true)
  rw [openOutline, applyQuery_ok hd h]
  dsimp only
  rw [tree, search_answered, if_neg (Bool.eq_false_iff.mp hidle), hdocument, hcursor, hr]
  dsimp only
  rw [if_pos hmode, redrawn, tree, search_answered]
  rfl

/-- Where all symbols were shown and folded, those above a row are what is unfolded for it. -/
theorem unfolded_expandAbove {F : SymbolForest} {r : Row} (hr : r ∈ (Tree.blank {} F).preorder)
    {x : Row} (hx : x ∈ ((Tree.blank {} F).expandAbove r.path).preorder) :
    x.node.symbol?.isSome = true ∧ x.node.flags.hidden = false ∧
      (x.node.flags.expanded = true ↔ x.path.Above r.path) := by
  rw [Tree.preorder_expandAbove (by rw [Tree.mem_preorder.mp hr]; rfl)] at hx
  obtain ⟨y, hy, rfl⟩ := List.mem_map.mp hx
  obtain ⟨s, hs⟩ := Tree.node_of_mem_preorder_blank hy
  rw [hs]
  dsimp only
  split
  · rename_i habove
    exact ⟨rfl, rfl, iff_of_true rfl habove⟩
  · rename_i habove
    exact ⟨rfl, rfl, iff_of_false Bool.false_ne_true habove⟩

/-- A row to which the way is unfolded is on screen. -/
theorem shows_expandAbove {F : SymbolForest} {r : Row} (hr : r ∈ (Tree.blank {} F).preorder) :
    ((Tree.blank {} F).expandAbove r.path).shows r.path = true := by
  have hn := Tree.mem_preorder.mp hr
  have hkept : ((Tree.blank {} F).expandAbove r.path).node? r.path = some r.node := by
    rw [Tree.expandAbove, Tree.node?_modifyAbove _ (by rw [hn]; rfl), hn]
    simp [Path.Above]
  rw [Tree.shows_iff]
  refine ⟨r.node, hkept, ?_, fun q n hq hnode => ?_⟩
  · exact (unfolded_expandAbove hr (Tree.mem_preorder.mpr hkept)).2.1
  · obtain ⟨-, hshown, hopen⟩ := unfolded_expandAbove (x := ⟨q, n⟩) hr (Tree.mem_preorder.mpr hnode)
    exact ⟨hshown, hopen.mpr hq⟩

/-- The nearest row is the nearest symbol still when the way to it is unfolded. -/
theorem nearest_expandAbove {d : Document} {cursor : Int} {F : SymbolForest} {r : Row}
    (h : Nearest d cursor (Tree.blank {} F).preorder r) :
    Nearest d cursor ((Tree.blank {} F).expandAbove r.path).symbolRows r := by
  have hsymbols : ((Tree.blank {} F).expandAbove r.path).symbolRows =
      ((Tree.blank {} F).expandAbove r.path).preorder :=
    List.filter_eq_self.mpr fun x hx => (unfolded_expandAbove h.mem hx).1
  have hafter := h.map (f := fun x => ⟨x.path, if x.path.Above r.path then
    x.node.mapFlags ({ · with expanded := true }) else x.node⟩) fun x => by
      dsimp only [Navigation.distance]
      split
      · rw [Document.effectiveLine_mapFlags]
      · rfl
  rw [hsymbols, Tree.preorder_expandAbove (by rw [Tree.mem_preorder.mp h.mem]; rfl)]
  -- the row itself is not above itself, and so it is what it was
  rwa [if_neg fun habove => habove.2 rfl] at hafter

/-- **What is selected as an outline is opened.** An outline with symbols, opened to search their
names with no query or the sentinel alone remembered, opens without fail. No symbol is hidden, and
the selection is the symbol nearest to the cursor of all symbols at any depth, the last of these.
What is unfolded are the symbols above it, so that it is listed. -/
theorem opens_at_nearest {o : Opening} (hmode : o.mode = .symbol)
    (hsentinel : o.settings.sentinel.length ≤ 1)
    (hquery : o.memory.symbolQuery = [] ∨ o.memory.symbolQuery = o.settings.sentinel)
    (hforest : o.forest ≠ .nil) :
    let s := o.session
    o.unopened.openOutline.2 = .ok () ∧
    s.tree.symbols = (Tree.build o.forest).symbols ∧
    (∀ x ∈ s.tree.preorder, x.node.flags.hidden = false) ∧
    ∃ r, s.active = some (.present r.path) ∧ .present r.path ∈ s.items ∧
      Nearest o.document o.cursor s.tree.symbolRows r ∧
      ∀ x ∈ s.tree.preorder, x.node.flags.expanded = true ↔ x.path.Above r.path := by
  intro s
  set F := (Tree.build o.forest).symbols with hF
  set t := Tree.blank {} F with ht
  -- the query remembered asks for nothing, so all symbols are shown and folded
  have hremembered : o.unopened.search.memory.get o.unopened.search.mode = o.memory.symbolQuery :=
    congrArg o.memory.get hmode
  have hasked : o.unopened.search.asked
      (o.unopened.search.memory.get o.unopened.search.mode) = .none := by
    rw [hremembered]
    exact Search.asked_eq_none hsentinel hquery
  have happly := Search.apply_of_none hasked o.document
  have hunfiltered : Search.unfiltered o.unopened.search.mode o.unopened.search.tree = t := by
    rw [Search.unfiltered_eq]
    exact congrArg (Tree.blank · F) (if_pos hmode)
  rw [hunfiltered] at happly
  -- there is a symbol, so there is a nearest one
  have hrows : t.preorder ≠ [] := by
    rw [ne_eq, ht, Tree.preorder_blank_eq_nil, hF, Tree.symbols_build_eq_nil]
    exact hforest
  have hconsidered : t.preorder.filter (considered false) = t.preorder :=
    Tree.considered_blank F (List.Subset.refl _)
  obtain ⟨r, hr⟩ := Option.ne_none_iff_exists'.mp fun hnone =>
    hrows (hconsidered ▸ Navigation.closest_eq_none_iff.mp hnone)
  have hnearest : Nearest o.document o.cursor t.preorder r :=
    hconsidered ▸ Navigation.nearest_of_closest hr
  have hopen := openOutline_idle (s := o.unopened) rfl happly rfl hmode hr
  have hs : s = _ := congrArg Prod.fst hopen
  have htree : s.tree = t.expandAbove r.path := by rw [hs, tree, redrawn, search_publish]
  have hlisted : .present r.path ∈ Item.listed (t.expandAbove r.path) :=
    Item.present_mem_listed.mpr (shows_expandAbove hnearest.mem)
  have hactive : s.active = some (.present r.path) := by
    rw [hs, redrawn]
    exact active_publish rfl hlisted
  refine ⟨by rw [hopen], ?_, ?_, r, hactive, ?_, ?_, ?_⟩
  · rw [htree, Tree.expandAbove, Tree.symbols_modifyAbove, ht, Tree.symbols_blank]
  · rw [htree]
    exact fun x hx => (unfolded_expandAbove hnearest.mem hx).2.1
  · rw [(consistent_opening o).items]
    exact htree ▸ hlisted
  · rw [htree]
    exact nearest_expandAbove hnearest
  · rw [htree]
    exact fun x hx => (unfolded_expandAbove hnearest.mem hx).2.2

/-- With the cursor in the body of the method, the method is selected and the class unfolded. -/
theorem opens_at_nearest_sample :
    let o := { sample with cursor := 3 }
    o.session.active = some (.present [0, 2]) ∧ .present [0, 2] ∈ o.session.items ∧
      ∀ x ∈ o.session.tree.preorder, x.node.flags.expanded = true ↔ x.path.Above [0, 2] := by
  intro o
  obtain ⟨-, -, -, r, hactive, hitem, -, hexpanded⟩ :=
    opens_at_nearest (o := o) rfl (by decide) (Or.inl rfl) (by decide)
  have hat : o.session.active = some (.present [0, 2]) := by decide +kernel
  have hpath : r.path = [0, 2] := by simpa using hactive.symm.trans hat
  exact ⟨hat, hpath ▸ hitem, hpath ▸ hexpanded⟩

end Session

end Outline
