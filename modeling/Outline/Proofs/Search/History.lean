import Outline.Proofs.Search.Apply
import Outline.Search.Navigation

/-!
# A query forgets what was before it

Between two queries everything can happen to an outline: hits are hung into it, flags are set one by
one and in bulk, groups are folded and unfolded, and queries end early. What stays is the mode, the
sentinel and the symbols (`kin_run`), and nothing else is seen by the next query
(`apply_congr`). So a query has the same effect whatever was done before it, and none if it has just
been applied (`apply_after_run`).
-/
namespace Outline

namespace Tree

@[simp] theorem symbols_expand (t : Tree) (items : List Item) (i : Item) :
    (Navigation.expand t items i).1.symbols = t.symbols := by
  cases i with
  | present p =>
    rw [Navigation.expand]
    split <;> exact symbols_modify _ t p
  | dropped => rfl

@[simp] theorem symbols_collapse (t : Tree) (i : Item) :
    (Navigation.collapse t i).1.symbols = t.symbols := by
  match i with
  | .dropped _ owner => exact symbols_fold t owner
  | .present [] => exact symbols_fold t []
  | .present [n] => exact symbols_fold t [n]
  | .present (n :: m :: p) => exact symbols_fold t (n :: m :: p).dropLast

end Tree

namespace Search

/-! ## What a query keeps -/

theorem unfiltered_eq (mode : Mode) (t : Tree) :
    unfiltered mode t =
      Tree.blank (if mode = .symbol then {} else { hidden := true }) t.symbols := by
  unfold unfiltered
  split
  · exact Tree.revealAll_clearMatches t
  · exact Tree.hideAll_clearMatches t

theorem symbols_passTokens {mode : Mode} {d : Document} {ks : Option (List Kind)} {ts : List Token}
    {t t' : Tree} (h : passTokens mode d ks ts t = .ok t') : t'.symbols = t.symbols := by
  by_cases hm : mode = .text
  · subst hm
    obtain ⟨hits, -, rfl⟩ := passTokens_text h
    exact Tree.symbols_insertAll _ t
  · obtain ⟨hits, -, rfl⟩ := passTokens_names hm h
    cases ks with
    | none => exact Tree.symbols_insertAll _ t
    | some ks => exact Tree.symbols_markWhere _ t

theorem symbols_pass {mode : Mode} {d : Document} {q : Query} {t t' : Tree}
    (h : pass mode d t q = .ok t') : t'.symbols = t.symbols := by
  cases q with
  | none => cases h; rfl
  | kinds ks =>
    simp only [pass, Except.ok.injEq] at h
    subst h
    split
    · rfl
    · exact Tree.symbols_markWhere _ t
  | tokens ts => exact symbols_passTokens h
  | kindsAndTokens ks ts => exact symbols_passTokens h

/-- Two searches of one outline: what can differ is the flags, the leaves and what is remembered. -/
structure Kin (s s' : Search) : Prop where
  mode : s.mode = s'.mode
  sentinel : s.sentinel = s'.sentinel
  symbols : s.tree.symbols = s'.tree.symbols

theorem Kin.refl (s : Search) : s.Kin s := ⟨rfl, rfl, rfl⟩

theorem Kin.symm {s s' : Search} (h : s.Kin s') : s'.Kin s :=
  ⟨h.mode.symm, h.sentinel.symm, h.symbols.symm⟩

theorem Kin.trans {s s' s'' : Search} (h : s.Kin s') (h' : s'.Kin s'') : s.Kin s'' :=
  ⟨h.mode.trans h'.mode, h.sentinel.trans h'.sentinel, h.symbols.trans h'.symbols⟩

/-- Also a query that ends early keeps them. -/
theorem kin_apply (s : Search) (d : Document) (raw : Text) : (s.apply d raw).1.Kin s := by
  by_cases h : s.asked raw = .none
  · rw [apply_of_none h]
    exact ⟨rfl, rfl, by simp only [unfiltered_eq, Tree.symbols_blank]⟩
  · rw [apply_of_query h]
    split
    · rename_i t ht
      refine ⟨rfl, rfl, ?_⟩
      rw [symbols_pass ht, bare, Tree.symbols_blank]
    · exact ⟨rfl, rfl, Tree.symbols_blank _ _⟩

/-! ## What a query sees -/

theorem Kin.prompt {s s' : Search} (h : s.Kin s') (raw : Text) : s.prompt raw = s'.prompt raw := by
  unfold Search.prompt
  rw [h.sentinel]

theorem Kin.asked {s s' : Search} (h : s.Kin s') (raw : Text) : s.asked raw = s'.asked raw := by
  unfold Search.asked
  rw [h.prompt, h.sentinel]

/-- Searches of one outline come to the same outline by the same query, and the query has the same
outcome. Only one that ends early leaves the status as it was. -/
theorem apply_congr {s s' : Search} (h : s.Kin s') (d : Document) (raw : Text) :
    (s.apply d raw).2 = (s'.apply d raw).2 ∧
      (s.apply d raw).1.tree = (s'.apply d raw).1.tree ∧
      ∀ o, (s.apply d raw).2 = .ok o → (s.apply d raw).1.status = (s'.apply d raw).1.status := by
  have ha := h.asked raw
  by_cases hq : s.asked raw = .none
  · rw [apply_of_none hq, apply_of_none (ha ▸ hq), h.prompt, h.sentinel]
    simp only [unfiltered_eq, h.mode, h.symbols, implies_true, and_self]
  · have hb : s.bare = s'.bare := by rw [bare, bare, h.symbols]
    rw [apply_of_query hq, apply_of_query (ha ▸ hq), ← ha, ← hb, ← h.mode, h.prompt, h.sentinel]
    cases pass s.mode d s.bare (s.asked raw) with
    | ok t => exact ⟨rfl, rfl, fun _ _ => rfl⟩
    | error a => exact ⟨rfl, rfl, nofun⟩

theorem dropPrefix?_append (sentinel raw : Text) :
    (sentinel ++ raw).dropPrefix? sentinel = some raw := by
  induction sentinel with
  | nil => cases raw <;> rfl
  | cons c cs ih => rw [List.cons_append, Text.dropPrefix?, if_pos rfl, ih]

/-- The text of a query begins with the sentinel. -/
theorem dropPrefix?_prompt (s : Search) (raw : Text) :
    ((s.prompt raw).dropPrefix? s.sentinel).isNone = false := by
  unfold prompt
  split
  · rw [dropPrefix?_append]; rfl
  · rename_i h
    rwa [Bool.not_eq_true] at h

theorem prompt_prompt (s : Search) (raw : Text) : s.prompt (s.prompt raw) = s.prompt raw := by
  rw [prompt, if_neg]
  rw [dropPrefix?_prompt]
  exact Bool.false_ne_true

/-- A query and its text with the sentinel do the same, but nothing is missing from the latter. -/
theorem apply_prompt (s : Search) (d : Document) (raw : Text) :
    (s.apply d (s.prompt raw)).1.tree = (s.apply d raw).1.tree ∧
      ∀ o, (s.apply d raw).2 = .ok o →
        (s.apply d (s.prompt raw)).1.status = (s.apply d raw).1.status ∧
          (s.apply d (s.prompt raw)).2 = .ok { o with completed := false } := by
  have ha : s.asked (s.prompt raw) = s.asked raw := by rw [asked, asked, prompt_prompt]
  by_cases hq : s.asked raw = .none
  · rw [apply_of_none hq, apply_of_none (ha.trans hq), prompt_prompt, dropPrefix?_prompt]
    exact ⟨rfl, fun o ho => ⟨rfl, by cases ho; rfl⟩⟩
  · rw [apply_of_query hq, apply_of_query (ha ▸ hq), ha, prompt_prompt, dropPrefix?_prompt]
    cases pass s.mode d s.bare (s.asked raw) with
    | ok t => exact ⟨rfl, fun o ho => ⟨rfl, by cases ho; rfl⟩⟩
    | error a => exact ⟨rfl, nofun⟩

theorem text_of_apply {s s' : Search} {d : Document} {raw : Text} {o : Outcome}
    (h : s.apply d raw = (s', .ok o)) : o.text = s.prompt raw := by
  by_cases hq : s.asked raw = .none
  · rw [apply_of_none hq] at h
    cases h; rfl
  · rw [apply_of_query hq] at h
    split at h <;> cases h
    rfl

/-! ## Runs -/

/-- What can be done to an outline under search. -/
inductive Operation
  | apply (raw : Text)
  | insertMatch (arrival : Arrival)
  | clearMatches
  | hideAll
  | revealAll
  | setAllExpanded (value : Bool)
  | markResult (path : Path)
  | revealAbove (path : Path)
  | expand (items : List Item) (item : Item)
  | collapse (item : Item)
  | setFlags (path : Path) (change : Flags → Flags)

def perform (d : Document) (s : Search) : Operation → Search
  | .apply raw => (s.apply d raw).1
  | .insertMatch a => { s with tree := s.tree.insertMatch a }
  | .clearMatches => { s with tree := s.tree.clearMatches }
  | .hideAll => { s with tree := s.tree.hideAll }
  | .revealAll => { s with tree := s.tree.revealAll }
  | .setAllExpanded v => { s with tree := s.tree.setAllExpanded v }
  | .markResult p => { s with tree := s.tree.markResult p }
  | .revealAbove p => { s with tree := s.tree.revealAbove p }
  | .expand items i => { s with tree := (Navigation.expand s.tree items i).1 }
  | .collapse i => { s with tree := (Navigation.collapse s.tree i).1 }
  | .setFlags p g => { s with tree := s.tree.modify g p }

def run (d : Document) (s : Search) (ops : List Operation) : Search := ops.foldl (perform d) s

theorem kin_perform (d : Document) (s : Search) (op : Operation) : (perform d s op).Kin s := by
  cases op with
  | apply raw => exact kin_apply s d raw
  | insertMatch a => exact ⟨rfl, rfl, Tree.symbols_insertMatch a s.tree⟩
  | clearMatches => exact ⟨rfl, rfl, Tree.symbols_clearMatches s.tree⟩
  | hideAll => exact ⟨rfl, rfl, Tree.symbols_hideAll s.tree⟩
  | revealAll => exact ⟨rfl, rfl, Tree.symbols_revealAll s.tree⟩
  | setAllExpanded v => exact ⟨rfl, rfl, Tree.symbols_setAllExpanded v s.tree⟩
  | markResult p => exact ⟨rfl, rfl, Tree.symbols_markResult s.tree p⟩
  | revealAbove p => exact ⟨rfl, rfl, Tree.symbols_revealAbove s.tree p⟩
  | expand items i => exact ⟨rfl, rfl, Tree.symbols_expand s.tree items i⟩
  | collapse i => exact ⟨rfl, rfl, Tree.symbols_collapse s.tree i⟩
  | setFlags p g => exact ⟨rfl, rfl, Tree.symbols_modify g s.tree p⟩

theorem kin_run (d : Document) (s : Search) (ops : List Operation) : (run d s ops).Kin s := by
  induction ops generalizing s with
  | nil => exact .refl s
  | cons op ops ih => exact (ih (perform d s op)).trans (kin_perform d s op)

/-- The search of an outline as it is opened. -/
def opened (mode : Mode) (sentinel : Text) (F : SymbolForest) (memory : Memory) : Search where
  mode := mode
  sentinel := sentinel
  tree := Tree.build F
  memory := memory

/-- **A query forgets what was before it.** After any two runs of operations on the outline of one
forest, a query that does not end early leaves the same outline, with the same leaves and flags, the
same status and the same outcome. Its text applied again is complete and leaves the outline as it
is. -/
theorem apply_after_run {d : Document} {mode : Mode} {sentinel : Text} {F : SymbolForest}
    {m m' : Memory} {ops : List Operation} (ops' : List Operation) {raw : Text} {s : Search}
    {o : Outcome} (h : (run d (opened mode sentinel F m) ops).apply d raw = (s, .ok o)) :
    (∃ s', (run d (opened mode sentinel F m') ops').apply d raw = (s', .ok o) ∧
      s'.tree = s.tree ∧ s'.status = s.status) ∧
    ∃ s', s.apply d o.text = (s', .ok { o with completed := false }) ∧
      s'.tree = s.tree ∧ s'.status = s.status := by
  set r := run d (opened mode sentinel F m) ops
  set r' := run d (opened mode sentinel F m') ops'
  have hr : r.Kin r' := by
    have hm : (opened mode sentinel F m).Kin (opened mode sentinel F m') := ⟨rfl, rfl, rfl⟩
    exact ((kin_run d _ ops).trans hm).trans (kin_run d _ ops').symm
  constructor
  · obtain ⟨ho, ht, hs⟩ := apply_congr hr d raw
    rw [h] at ho ht hs
    exact ⟨_, Prod.ext rfl ho.symm, ht.symm, (hs o rfl).symm⟩
  · -- the search after the query is one of the same outline, and its text is the completed query
    have hk : s.Kin r := by
      have := kin_apply r d raw
      rwa [h] at this
    obtain ⟨ho, ht, hs⟩ := apply_congr hk d o.text
    obtain ⟨ht', hp⟩ := apply_prompt r d raw
    rw [← text_of_apply h, h] at ht' hp
    obtain ⟨hs', ho'⟩ := hp o rfl
    have ho'' := ho.trans ho'
    exact ⟨_, Prod.ext rfl ho'', ht.trans ht', (hs _ ho'').trans hs'⟩

/-- The lines with an `x`, once as the first query and once after a query for methods, a hit hung in
by hand and a class that was made a result and folded. -/
theorem apply_after_run_sample :
    let s := opened .text ['#'] sampleForest {}
    ∃ s', (run sampleDocument s
      [.apply "#f x".toList, .insertMatch ⟨⟨.whole 3 [], ⟨3, []⟩⟩, none⟩,
        .setFlags [0] Flags.marked, .collapse (.present [0, 1])]).apply sampleDocument ['x'] =
          (s', .ok ⟨.tokens [{ pattern := ['x'] }], ['#', 'x'], true, 2⟩) ∧
      s'.tree = (s.apply sampleDocument ['x']).1.tree ∧
      s'.status = (s.apply sampleDocument ['x']).1.status := by
  intro s
  have h : (s.apply sampleDocument ['x']).2 =
      .ok ⟨.tokens [{ pattern := ['x'] }], ['#', 'x'], true, 2⟩ := by
    decide +kernel
  have hrun : (run sampleDocument s []).apply sampleDocument ['x'] =
      ((s.apply sampleDocument ['x']).1, .ok ⟨.tokens [{ pattern := ['x'] }], ['#', 'x'], true, 2⟩) :=
    Prod.ext rfl h
  exact (apply_after_run _ hrun).1

end Search

end Outline
