import Outline.Proofs.Search.History
import Outline.Proofs.Tree.Order

/-!
# What every outline keeps

Whatever is done to the outline of a forest, and by whichever searches, it is that of the same
symbols in the same places, in order on every level, with the leaves below symbols
(`outline_keeps_order`). One operation keeps the order (`inOrder_perform`): those that set flags
keep the nodes, and a query starts from the bare symbols.
-/
namespace Outline

namespace Tree

theorem shape_expand (t : Tree) (items : List Item) (i : Item) :
    (Navigation.expand t items i).1.shape = t.shape := by
  cases i with
  | present p =>
    rw [Navigation.expand]
    split <;> exact shape_modify _ t p
  | dropped => rfl

theorem shape_fold (t : Tree) (p : Path) : (t.fold p).shape = t.shape := by
  simp [fold]

theorem shape_collapse (t : Tree) (i : Item) :
    (Navigation.collapse t i).1.shape = t.shape := by
  match i with
  | .dropped _ owner => exact shape_fold t owner
  | .present [] => exact shape_fold t []
  | .present [n] => exact shape_fold t [n]
  | .present (n :: m :: p) => exact shape_fold t (n :: m :: p).dropLast

theorem inOrder_insertAll (as : List Arrival) {t : Tree} (ht : t.InOrder) :
    (t.insertAll as).InOrder :=
  insertAll_induct as (fun a _ _ h => inOrder_insertMatch a h) ht

theorem InOrder.markWhere {t : Tree} (ht : t.InOrder) (p : Symbol → Bool) :
    (t.markWhere p).InOrder :=
  ht.of_shape (shape_markWhere p t)

/-- Nothing but symbols that are no results is left when the matches are cleared. -/
theorem symbol_of_clearMatches {t : Tree} {p : Path} {n : Node}
    (h : t.clearMatches.node? p = some n) : n.symbol?.isSome = true ∧ n.flags.result = false := by
  induction t generalizing p with
  | nil => simp [clearMatches] at h
  | symbol s f cs rest ihc ihr =>
    cases p with
    | nil => simp at h
    | cons i q =>
      cases i with
      | succ i => exact ihr h
      | zero =>
        cases q with
        | nil =>
          cases h
          exact ⟨rfl, rfl⟩
        | cons j q => exact ihc (p := j :: q) (by simpa [clearMatches] using h)
  | leaf l f rest ihr => exact ihr h

end Tree

namespace Search

open Outline.Tree

/-! ## One operation -/

theorem inOrder_passTokens {mode : Mode} {d : Document} {ks : Option (List Kind)}
    {ts : List Token} {t t' : Tree} (ht : t.InOrder) (h : passTokens mode d ks ts t = .ok t') :
    t'.InOrder := by
  by_cases hm : mode = .text
  · subst hm
    obtain ⟨hits, -, rfl⟩ := passTokens_text h
    exact inOrder_insertAll _ ht
  · obtain ⟨hits, -, rfl⟩ := passTokens_names hm h
    cases ks with
    | none => exact inOrder_insertAll _ ht
    | some ks => exact ht.markWhere _

theorem inOrder_pass {mode : Mode} {d : Document} {q : Query} {t t' : Tree} (ht : t.InOrder)
    (h : pass mode d t q = .ok t') : t'.InOrder := by
  cases q with
  | none =>
    cases h
    exact ht
  | kinds ks =>
    simp only [pass, Except.ok.injEq] at h
    subst h
    split
    · exact ht
    · exact ht.markWhere _
  | tokens ts => exact inOrder_passTokens ht h
  | kindsAndTokens ks ts => exact inOrder_passTokens ht h

/-- A query starts from the bare symbols, whether it ends well or early. -/
theorem inOrder_apply {s : Search} (hs : s.tree.InOrder) (d : Document) (raw : Text) :
    (s.apply d raw).1.tree.InOrder := by
  have hbare : s.bare.InOrder := hs.bare _
  by_cases h : s.asked raw = .none
  · rw [apply_of_none h]
    dsimp only
    rw [unfiltered_eq]
    exact hs.bare _
  · rw [apply_of_query h]
    split
    · rename_i t ht
      exact inOrder_pass hbare ht
    · exact hbare

theorem inOrder_perform {s : Search} (hs : s.tree.InOrder) (d : Document) (op : Operation) :
    (perform d s op).tree.InOrder := by
  cases op with
  | apply raw => exact inOrder_apply hs d raw
  | insertMatch a => exact inOrder_insertMatch a hs
  | clearMatches => exact inOrder_clearMatches hs
  | hideAll => exact hs.of_shape (shape_mapFlags _ s.tree)
  | revealAll => exact hs.of_shape (shape_mapFlags _ s.tree)
  | setAllExpanded v => exact hs.of_shape (shape_mapFlags _ s.tree)
  | markResult p => exact hs.of_shape (by simp [perform, markResult, revealAbove])
  | revealAbove p => exact hs.of_shape (shape_modifyAbove _ s.tree p)
  | expand items i => exact hs.of_shape (shape_expand s.tree items i)
  | collapse i => exact hs.of_shape (shape_collapse s.tree i)
  | setFlags p g => exact hs.of_shape (shape_modify g s.tree p)

/-! ## Runs -/

/-- What queries of an outline are made with. -/
structure Engine where
  document : Document
  mode : Mode
  sentinel : Text

def Engine.perform (e : Engine) (t : Tree) (op : Operation) : Tree :=
  (Search.perform e.document { mode := e.mode, sentinel := e.sentinel, tree := t } op).tree

/-- An outline after several operations in turn, each with an engine of its own. -/
def runOn (t : Tree) (ops : List (Engine × Operation)) : Tree :=
  ops.foldl (fun t (e, op) => e.perform t op) t

theorem symbols_runOn (t : Tree) (ops : List (Engine × Operation)) :
    (runOn t ops).symbols = t.symbols := by
  induction ops generalizing t with
  | nil => rfl
  | cons x ops ih => exact (ih (x.1.perform t x.2)).trans (kin_perform _ _ x.2).symbols

theorem inOrder_runOn {t : Tree} (ht : t.InOrder) (ops : List (Engine × Operation)) :
    (runOn t ops).InOrder := by
  induction ops generalizing t with
  | nil => exact ht
  | cons x ops ih => exact ih (inOrder_perform ht x.1.document x.2)

/-- **The structure of an outline.** After every run of operations on the outline of a forest, with
queries of either mode and of any document, its symbols are those it was built from, in the same
places. The symbols of every level are in order of start position, and all nodes of a level in order
of their lines. A node is a root, and then a symbol on depth 0, or stands below a symbol, one deeper
than that. Clearing the matches leaves nothing but symbols, none of them a result. -/
theorem outline_keeps_order (F : SymbolForest) (ops : List (Engine × Operation)) :
    let t := runOn (Tree.build F) ops
    t.symbols = (Tree.build F).symbols ∧
    (∀ p, ((t.childrenAt p).siblings.filterMap (·.symbol?)).Pairwise
      fun a b => a.range.start.le b.range.start = true) ∧
    (∀ p, (t.childrenAt p).siblings.Pairwise fun a b => a.line ≤ b.line) ∧
    (∀ r ∈ t.preorder,
      (r.path.length = 1 ∧ r.node.symbol?.isSome = true ∧ r.depth = 0) ∨
      ∃ up ∈ t.preorder, r.path.dropLast = up.path ∧ up.node.symbol?.isSome = true ∧
        r.depth = up.depth + 1) ∧
    ∀ r ∈ t.clearMatches.preorder, r.node.symbol?.isSome = true ∧ r.node.flags.result = false := by
  intro t
  have ht : t.InOrder := inOrder_runOn (inOrder_build F) ops
  refine ⟨symbols_runOn _ ops, fun p => ?_, fun p => ?_, fun r hr => ?_, fun r hr => ?_⟩
  · rw [filterMap_symbol?_siblings]
    exact (sorted_childrenAt ht.starts p).pairwise
  · exact (ordered_childrenAt ht.lines p).pairwise
  · rcases root_or_above ht.depths hr with ⟨hlen, hd, hn⟩ | h
    · exact Or.inl ⟨hlen, ht.roots _ hn, hd⟩
    · exact Or.inr h
  · exact symbol_of_clearMatches (mem_preorder.mp hr)

end Search

end Outline
