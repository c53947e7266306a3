import Mathlib.Data.List.Induction
import Outline.Proofs.Search.Apply
import Outline.Proofs.Search.Groups
import Outline.Proofs.Session.Run

/-!
# The list and the selection

What a session lists is what is on screen, the presentation shows that list, and the selection is in
it (`Consistent`). Every call keeps this but a query that ends early while something is listed: the
outline is hidden then, and the list is left as it was (`consistent_perform`). In a consistent
session no command that moves the selection or unfolds something loses it (`keeps_selection`).
`consistent_run_iff` says both of a whole run.
-/
namespace Outline.Session

/-- The list is what is on screen, is shown as it is, and holds the selection. -/
structure Consistent (s : Session) : Prop where
  items : s.items = Item.listed s.tree
  shown : s.recorder.items = s.items
  active : ∀ i, s.active = some i → i ∈ s.items

/-! ## Showing -/

theorem consistent_publish (s : Session) : s.publish.Consistent := by
  rw [publish_eq]
  refine ⟨rfl, Recorder.items_pointAt _ _, fun i hi => ?_⟩
  exact List.contains_iff_mem.mp (Option.filter_eq_some_iff.mp hi).2

theorem Consistent.highlight {s : Session} (h : s.Consistent) {i : Item} (hi : i ∈ s.items) :
    ({ s with active := some i }.highlight i).Consistent := by
  rw [highlight_eq]
  refine ⟨h.items, (Recorder.items_pointAt _ _).trans h.shown, fun j hj => ?_⟩
  obtain rfl : i = j := by simpa using hj
  exact hi

/-- A selection that is on screen stays. -/
theorem active_publish {s : Session} {i : Item} (ha : s.active = some i)
    (hi : i ∈ Item.listed s.tree) : s.publish.active = some i := by
  rw [publish_eq]
  dsimp only
  rw [ha, Option.filter_eq_some_iff]
  exact ⟨rfl, List.contains_iff_mem.mpr hi⟩

/-! ## Calls -/

/-- Whether a call ends early because of a query. -/
def Aborts (s : Session) (op : Operation) : Prop :=
  ∃ cause, (s.perform op).2 = .error (.aborted cause)

theorem Consistent.met {s : Session} (h : s.Consistent) (op : Operation) :
    (s.met op).Consistent := by
  cases op <;> exact ⟨h.items, h.shown, h.active⟩

theorem items_met (s : Session) (op : Operation) : (s.met op).items = s.items := by
  cases op <;> rfl

/-- A query that ends early leaves nothing on screen. -/
theorem listed_broken {s : Session} {text : Text} {search : Search} {cause : Abort}
    (h : s.search.apply s.document text = (search, .error cause)) :
    Item.listed (s.broken search).tree = [] := by
  have ht : (s.broken search).tree = s.search.bare := Search.apply_error h
  rw [Item.listed, ht, Search.bare, Tree.visible_blank]
  rfl

theorem consistent_broken_iff {s : Session} (hs : s.Consistent) {text : Text} {search : Search}
    {cause : Abort} (h : s.search.apply s.document text = (search, .error cause)) :
    (s.broken search).Consistent ↔ s.items = [] := by
  constructor
  · intro hb
    have hempty := hb.items.trans (listed_broken h)
    exact List.map_eq_nil_iff.mp hempty
  · intro hempty
    have hshown : s.recorder.items = [] := hs.shown.trans hempty
    have hactive : s.active = none := by
      rw [Option.eq_none_iff_forall_not_mem]
      intro i hi
      simpa [hempty] using hs.active i hi
    refine ⟨?_, ?_, ?_⟩
    · rw [listed_broken h]
      simp [broken, outdate, hempty]
    · simp [broken, outdate, hshown, hempty]
    · simp [broken, outdate, hactive]

/-- A call keeps the list and the selection consistent, unless it is a query that ends early while
something is listed. -/
theorem consistent_perform {s : Session} (hs : s.Consistent) (op : Operation) :
    (s.perform op).1.Consistent ↔ (s.Aborts op → s.items = []) := by
  have hm := hs.met op
  have hd := does_perform s op
  rw [Aborts, ← items_met s op]
  generalize s.perform op = r at hd ⊢
  cases hd with
  | refused e he =>
    exact iff_of_true hm fun ⟨cause, h⟩ => absurd (Except.error.inj h) (he cause)
  | nothing => exact iff_of_true hm nofun
  | hushed => exact iff_of_true ⟨hm.items, hm.shown, hm.active⟩ nofun
  | armed => exact iff_of_true ⟨hm.items, hm.shown, hm.active⟩ nofun
  | broken _ _ h =>
    rw [consistent_broken_iff hm h]
    exact ⟨fun hempty _ => hempty, fun hempty => hempty ⟨_, rfl⟩⟩
  | answered => exact iff_of_true (consistent_publish _) nofun
  | redrawn => exact iff_of_true (consistent_publish _) nofun
  | pointed _ hi => exact iff_of_true (hm.highlight hi) nofun
  | accepted | closed =>
    exact iff_of_true ⟨hm.items, hm.shown, nofun⟩ nofun

/-- Whether a call is one that never gives up a selection. -/
def Operation.Keeps : Operation → Prop
  | expandActive | collapseActive | expandAll | showAll _ | cycle _ | select _ => True
  | _ => False

theorem active_moveBy {s : Session} (hs : s.Consistent) {f : Tree → Item → Tree × Item}
    (hf : ∀ i ∈ s.items, (f s.tree i).2 ∈ Item.listed (f s.tree i).1)
    (ha : s.active.isSome = true) : (s.moveBy f).1.active.isSome = true := by
  rw [moveBy, whileOpen]
  split
  · exact ha
  · split
    · exact ha
    · rename_i i hi
      have := active_publish
        (s := { s with
          active := some (f s.tree i).2, search := { s.search with tree := (f s.tree i).1 } })
        rfl (hf i (hs.active i hi))
      exact Option.isSome_of_eq_some this

theorem active_withTree {s : Session} (hs : s.Consistent) {f : Tree → Tree}
    (hf : s.tree.Unfolds (f s.tree)) (ha : s.active.isSome = true) :
    (s.whileOpen fun s => (s.withTree f, .ok ())).1.active.isSome = true := by
  rw [whileOpen]
  split
  · exact ha
  · obtain ⟨i, hi⟩ := Option.isSome_iff_exists.mp ha
    have hlisted : i ∈ Item.listed s.tree := hs.items ▸ hs.active i hi
    exact Option.isSome_of_eq_some
      (active_publish (s := { s with search := { s.search with tree := f s.tree } }) hi
        (Item.listed_subset_of_unfolds hf hlisted))

/-- What moving over the results or the rows selects is listed. -/
theorem cycle_open {s : Session} (hs : s.Consistent) (hd : s.disposed = false) (d : Direction) :
    (s.cycle d).2 = .ok (s.cycle d).1.active ∧
      (s.active.isSome = true → (s.cycle d).1.active.isSome = true) := by
  set target := (Navigation.cycle s.tree s.items s.active d).or
    (Navigation.step s.items s.active d) with ht
  have hmem : ∀ i, target = some i → i ∈ Item.listed s.tree := by
    intro i hi
    rw [← hs.items]
    obtain h | ⟨-, h⟩ := Option.or_eq_some_iff.mp hi
    · exact Navigation.cycle_mem h
    · exact Navigation.step_mem h
  have hstep : s.cycle d = ({ s with active := target }.publish, .ok target) := by
    rw [cycle, whileOpen_open hd]
  have hactive : ({ s with active := target } : Session).publish.active = target := by
    cases h : target with
    | none => rw [publish_eq]; rfl
    | some i => exact active_publish rfl (hmem i h)
  rw [hstep, hactive]
  refine ⟨rfl, fun ha => ?_⟩
  obtain ⟨i, hi⟩ := Option.isSome_iff_exists.mp ha
  have hne : s.items ≠ [] := List.ne_nil_of_mem (hs.active i hi)
  rw [ht, Option.isSome_or, Navigation.isSome_step hne, Bool.or_true]

/-- Moving the selection and unfolding never lose it. -/
theorem keeps_selection {s : Session} (hs : s.Consistent) {op : Operation} (ho : op.Keeps)
    (ha : s.active.isSome = true) : (s.perform op).1.active.isSome = true := by
  cases op with
  | expandActive =>
    refine active_moveBy hs (fun i hi => ?_) ha
    rw [hs.items] at hi ⊢
    exact Navigation.expand_mem_listed hi
  | collapseActive =>
    refine active_moveBy hs (fun i hi => ?_) ha
    rw [hs.items] at hi
    exact Navigation.collapse_mem_listed hi
  | expandAll => exact active_withTree hs s.tree.unfolds_setAllExpanded ha
  | showAll kinds => exact active_withTree hs (s.tree.unfolds_expandTo _) ha
  | cycle d =>
    cases hd : s.disposed with
    | true =>
      rw [perform, cycle, whileOpen_closed hd]
      exact ha
    | false => exact (cycle_open hs hd d).2 ha
  | select i =>
    rw [perform, select, whileOpen]
    split
    · exact ha
    · split
      · rw [highlight_eq]
        rfl
      · exact ha
  | type | changed | collapseAll | accept | dispose | arm | consume => exact ho.elim

/-- A selection that is turned down changes nothing. -/
theorem select_error {s : Session} {i : Item} {e : Refusal} (h : (s.select i).2 = .error e) :
    (s.select i).1 = s := by
  rw [select, whileOpen] at h ⊢
  split
  · rfl
  · rename_i hd
    rw [if_neg hd] at h
    split
    · rename_i hi
      rw [if_pos hi] at h
      cases h
    · rfl

/-! ## Runs -/

theorem consistent_opening (o : Opening) : o.session.Consistent :=
  o.induct (fun _ _ h => ⟨(listed_broken h).symm, rfl, nofun⟩) fun _ _ _ _ _ => consistent_publish _

/-- **The list and the selection.** From the opening of an outline on, the list is what is on
screen, is shown as it is and holds the selection after every call, if and only if no query ends
early while something is listed. As long as it is so, moving the selection and unfolding never lose
it, the selection that moving over the results or rows answers is the one that the session has then,
and a selection that is turned down changes nothing. -/
theorem consistent_run_iff (o : Opening) (ops : List Operation) :
    let s := o.session
    ((∀ done, done <+: ops → (s.run done).Consistent) ↔
      ∀ done op, done ++ [op] <+: ops → (s.run done).Aborts op → (s.run done).items = []) ∧
    ∀ done, (s.run done).Consistent →
      (∀ op : Operation, op.Keeps → (s.run done).active.isSome = true →
        ((s.run done).perform op).1.active.isSome = true) ∧
      (∀ dir, (s.run done).disposed = false →
        ((s.run done).cycle dir).2 = .ok ((s.run done).cycle dir).1.active) ∧
      ∀ i e, ((s.run done).select i).2 = .error e → ((s.run done).select i).1 = s.run done := by
  intro s
  have hstep : ∀ done op, s.run (done ++ [op]) = ((s.run done).perform op).1 := fun done op =>
    run_append s done [op]
  constructor
  · constructor
    · intro hall done op hpre
      have hafter := hall _ hpre
      rw [hstep] at hafter
      exact (consistent_perform (hall done ((List.prefix_append ..).trans hpre)) op).mp hafter
    · intro hempty done
      induction done using List.reverseRecOn with
      | nil => exact fun _ => consistent_opening o
      | append_singleton done op ih =>
        intro hpre
        rw [hstep]
        have hbefore := ih ((List.prefix_append ..).trans hpre)
        exact (consistent_perform hbefore op).mpr (hempty done op hpre)
  · intro done hs
    exact ⟨fun op ho ha => keeps_selection hs ho ha, fun dir hd => (cycle_open hs hd dir).1,
      fun i e he => select_error he⟩

/-- A search for an `m` ends well, so that the class and its method are listed; unfolding the
method then leaves something selected. -/
theorem consistent_run_iff_sample :
    (sample.session.run [.type ['m']]).items = Item.listed (sample.session.run [.type ['m']]).tree ∧
      ((sample.session.run [.type ['m']]).perform .expandActive).1.active.isSome = true := by
  have hrun := consistent_run_iff sample [.type ['m']]
  have hok : (sample.session.perform (.type ['m'])).2 = .ok () := by decide +kernel
  have hall := hrun.1.mpr fun done op hpre ⟨cause, h⟩ => by
    obtain ⟨rfl, rfl⟩ : done = [] ∧ op = .type ['m'] := by
      match done with
      | [] => simpa using hpre
      | x :: done => simpa using hpre.length_le
    exact absurd (hok.symm.trans h) nofun
  have hs := hall [.type ['m']] (List.prefix_refl _)
  exact ⟨hs.items, (hrun.2 [.type ['m']] hs).1 .expandActive trivial (by decide +kernel)⟩

/-- A pattern that asks for two alphabets at once ends its query early, and the class is listed
still when it is on screen no more. -/
theorem inconsistent_after_clash :
    (sample.session.perform (.type "/(?a)(?u)/".toList)).2 = .error (.aborted .clashingAlphabets) ∧
      ¬(sample.session.run [.type "/(?a)(?u)/".toList]).Consistent := by
  have hlisted : Item.listed (sample.session.run [.type "/(?a)(?u)/".toList]).tree = [] := by
    decide +kernel
  have hitems : (sample.session.run [.type "/(?a)(?u)/".toList]).items = [.present [0]] := by
    decide +kernel
  refine ⟨by decide +kernel, fun h => ?_⟩
  have hboth := h.items
  rw [hlisted, hitems] at hboth
  cases hboth

end Outline.Session
