import Outline.Proofs.Tree.Tour
import Outline.Proofs.Tree.Trim
import Outline.Search.Navigation

/-!
# What rows stand for

Leaves come and go, and with them the paths of the symbols behind them shift. A `Mark` says what a
row stands for whatever leaves there are: a symbol by its path among the symbols, a leaf by the path
of its symbol and its line. A hit makes the mark of every stop that it lands at a result and changes
no other (`mem_resultMarks_insertAll`), so the results of several hits are those of each; and what
is on screen of a trim outline are the marks of its results and of the symbols above them
(`mem_map_mark_visible`).
-/
namespace Outline

/-- What a row stands for: a symbol, or a line below a symbol. -/
inductive Mark
  | symbol (path : Path)
  | line (owner : Path) (number : Nat) (text : Text)
  deriving DecidableEq, Repr

/-- The symbol of a mark, or the one above it. -/
def Mark.path : Mark → Path
  | symbol p => p
  | line owner _ _ => owner

/-- What a node stands for whose symbol, or the one above it, is at the given path. -/
def Node.mark (own owner : Path) : Node → Mark
  | symbol .. => .symbol own
  | leaf l _ => .line owner l.line.number l.line.text

/-- What a row of an outline stands for. -/
def Row.mark (t : Tree) (r : Row) : Mark :=
  r.node.mark (Item.symbolPath t r.path) (Item.symbolPath t r.path.dropLast)

/-- What a line stands for that is taken at a stop. -/
def Stop.mark (line : Line) (st : Stop) : Mark :=
  if st.entering then .symbol st.path else .line st.path line.number line.text

theorem Stop.mark_eq_symbol {st : Stop} {line : Line} :
    st.mark line = .symbol (st.mark line).path ↔ st.entering = true := by
  cases h : st.entering <;> simp [mark, h, Mark.path]

namespace Tree

/-! ## Marks of results -/

/-- The marks of the results of a forest whose first symbol is child `i` of `owner`. -/
def resultMarks (owner : Path) (i : Nat) : Tree → List Mark
  | nil => []
  | symbol _ f cs rest =>
    (if f.result then [.symbol (owner ++ [i])] else []) ++
      (resultMarks (owner ++ [i]) 0 cs ++ resultMarks owner (i + 1) rest)
  | leaf l f rest =>
    (if f.result then [.line owner l.line.number l.line.text] else []) ++ resultMarks owner i rest

@[simp] theorem mem_resultMarks_nil {owner : Path} {i : Nat} {m : Mark} :
    ¬m ∈ resultMarks owner i nil := List.not_mem_nil

@[simp] theorem mem_resultMarks_symbol {owner : Path} {i : Nat} {s f cs rest} {m : Mark} :
    m ∈ resultMarks owner i (symbol s f cs rest) ↔
      (f.result = true ∧ m = .symbol (owner ++ [i])) ∨ m ∈ resultMarks (owner ++ [i]) 0 cs ∨
        m ∈ resultMarks owner (i + 1) rest := by
  rw [resultMarks]
  split <;> simp [*]

@[simp] theorem mem_resultMarks_leaf {owner : Path} {i : Nat} {l f rest} {m : Mark} :
    m ∈ resultMarks owner i (leaf l f rest) ↔
      (f.result = true ∧ m = .line owner l.line.number l.line.text) ∨
        m ∈ resultMarks owner i rest := by
  rw [resultMarks]
  split <;> simp [*]

theorem resultMarks_blank (F : SymbolForest) (owner : Path) (i : Nat) :
    resultMarks owner i (blank { hidden := true } F) = [] := by
  induction F generalizing owner i with
  | nil => rfl
  | cons s cs rest ihc ihr => simp [blank, resultMarks, ihc, ihr]

/-- The marks of siblings counted from `i`, of which the first is child `j` of `above` with its
leaves; `name` says of a path with leaves what it is among the symbols. -/
theorem resultMarks_eq (t : Tree) (owner above : Path) (i j : Nat) (name : Path → Path)
    (habove : name above = owner)
    (hname : ∀ k q, name (above ++ (j + k) :: q) =
      owner ++ (i + Item.symbolsBefore k t) :: Item.symbolPath (t.childrenAt [k]) q) :
    resultMarks owner i t = ((rowsFrom above j t).filter (·.node.flags.result)).map
      fun r => r.node.mark (name r.path) (name r.path.dropLast) := by
  induction t generalizing owner above i j with
  | nil => rfl
  | symbol s f cs rest ihc ihr =>
    have hself : name (above ++ [j]) = owner ++ [i] := by
      simpa [Item.symbolsBefore, Item.symbolPath] using hname 0 []
    have hcs := ihc (owner ++ [i]) (above ++ [j]) 0 0 hself fun k q => by
      simpa [Item.symbolsBefore, Item.symbolPath, childrenAt] using hname 0 (k :: q)
    have hrest := ihr owner above (i + 1) (j + 1) habove fun k q => by
      have := hname (k + 1) q
      rw [Item.symbolsBefore] at this
      rwa [show j + 1 + k = j + (k + 1) by omega,
        show i + 1 + Item.symbolsBefore k rest = i + (Item.symbolsBefore k rest + 1) by omega]
    rw [resultMarks, rowsFrom, hcs, hrest, List.filter_cons, List.filter_append]
    cases hf : f.result <;> simp [Node.flags, Node.mark, hf, hself]
  | leaf l f rest ihr =>
    have hrest := ihr owner above i (j + 1) habove fun k q => by
      have := hname (k + 1) q
      rw [Item.symbolsBefore] at this
      rwa [show j + 1 + k = j + (k + 1) by omega]
    rw [resultMarks, rowsFrom, hrest, List.filter_cons]
    cases hf : f.result <;> simp [Node.flags, Node.mark, hf, habove]

theorem mem_resultMarks {t : Tree} {m : Mark} :
    m ∈ resultMarks [] 0 t ↔
      ∃ r : Row, t.node? r.path = some r.node ∧ r.node.flags.result = true ∧ r.mark t = m := by
  rw [resultMarks_eq t [] [] 0 0 (Item.symbolPath t) (by simp [Item.symbolPath])
    (by simp [Item.symbolPath]), ← preorder_eq]
  simp only [List.mem_map, List.mem_filter, mem_preorder, and_assoc]
  rfl

/-! ## Insertion -/

theorem mem_resultMarks_addLeaf {l : HungLeaf} {t : Tree} {owner : Path} {i : Nat} {m : Mark} :
    m ∈ resultMarks owner i (t.addLeaf l) ↔
      m ∈ resultMarks owner i t ∨ m = .line owner l.line.number l.line.text := by
  induction t generalizing i with
  | nil => simp [addLeaf, Flags.leaf]
  | symbol s f cs rest _ ihr =>
    rw [addLeaf]
    split
    · simp only [mem_resultMarks_leaf, mem_resultMarks_symbol, Flags.leaf, true_and]
      exact or_comm
    · simp only [mem_resultMarks_symbol, ihr, or_assoc]
  | leaf l' f rest ihr =>
    rw [addLeaf]
    split
    · simp only [mem_resultMarks_leaf, Flags.leaf, true_and]
      exact or_comm
    · simp only [mem_resultMarks_leaf, ihr, or_assoc]

/-- The first stop of the tour that can take a hit becomes the mark of a result. -/
theorem insertFirst_marks (a : Arrival) (t : Tree) (owner : Path) (i : Nat) :
    ((t.symbols.tourFrom owner i).find? a.takenAt = none ∧ insertFirst a t = none) ∨
      ∃ st t', (t.symbols.tourFrom owner i).find? a.takenAt = some st ∧
        insertFirst a t = some t' ∧ ∀ m, m ∈ resultMarks owner i t' ↔
          m ∈ resultMarks owner i t ∨ m = st.mark a.leaf.line := by
  induction t generalizing owner i with
  | nil => exact Or.inl ⟨rfl, rfl⟩
  | symbol s f cs rest ihc ihr =>
    rw [symbols, SymbolForest.tourFrom, insertFirst, List.find?_cons, List.find?_append,
      List.find?_cons]
    simp only [Arrival.takenAt, if_true, Bool.false_eq_true, if_false]
    cases hs : a.startsAt s with
    | true =>
      refine Or.inr ⟨_, _, rfl, rfl, fun m => ?_⟩
      simp only [mem_resultMarks_symbol, Flags.marked, true_and, Stop.mark, if_true]
      tauto
    | false =>
      obtain ⟨hn, hc⟩ | ⟨st, cs', hf, hc, hm⟩ := ihc (owner ++ [i]) 0
      · rw [hn, hc]
        cases hf : a.fitsIn s with
        | true =>
          -- nothing below the symbol takes the hit, so it hangs there as a leaf on leaving it
          refine Or.inr ⟨_, _, rfl, rfl, fun m => ?_⟩
          simp only [mem_resultMarks_symbol, mem_resultMarks_addLeaf, Flags.result_opened,
            Stop.mark, Bool.false_eq_true, if_false]
          tauto
        | false =>
          obtain ⟨hn', hr⟩ | ⟨st, rest', hf', hr, hm⟩ := ihr owner (i + 1)
          · exact Or.inl ⟨hn', by rw [hr]; rfl⟩
          · refine Or.inr ⟨st, _, hf', by rw [hr]; rfl, fun m => ?_⟩
            simp only [mem_resultMarks_symbol, hm, or_assoc]
      · rw [hf, hc]
        refine Or.inr ⟨st, _, rfl, rfl, fun m => ?_⟩
        simp only [mem_resultMarks_symbol, hm, Flags.result_opened]
        tauto
  | leaf l f rest ihr =>
    obtain ⟨hn, hr⟩ | ⟨st, rest', hf, hr, hm⟩ := ihr owner i
    · exact Or.inl ⟨hn, by rw [insertFirst, hr]; rfl⟩
    · refine Or.inr ⟨st, _, hf, by rw [insertFirst, hr]; rfl, fun m => ?_⟩
      simp only [mem_resultMarks_leaf, hm, or_assoc]

/-- Each root takes a hit at the first stop of its own tour that can take it. -/
theorem mem_resultMarks_insertMatch {a : Arrival} {t : Tree} {i : Nat} {m : Mark} :
    m ∈ resultMarks [] i (t.insertMatch a) ↔
      m ∈ resultMarks [] i t ∨
        ∃ st ∈ t.symbols.landings a.takenAt i, m = st.mark a.leaf.line := by
  induction t generalizing i with
  | nil => simp [insertMatch, symbols, SymbolForest.landings, SymbolForest.tours]
  | symbol s f cs rest _ ihr =>
    rw [symbols, SymbolForest.landings_cons, insertMatch]
    obtain ⟨hn, hi⟩ | ⟨st, t', hf, hi, hm⟩ := insertFirst_marks a (symbol s f cs nil) [] i
    · have hn' : (SymbolForest.tourFrom [] i (.single s cs.symbols)).find? a.takenAt = none := hn
      rw [hn', hi, Option.getD_none, Option.toList_none, List.nil_append]
      simp only [append, mem_resultMarks_symbol, ihr, or_assoc]
    · have hf' : (SymbolForest.tourFrom [] i (.single s cs.symbols)).find? a.takenAt = some st := hf
      obtain ⟨g, ds, rfl⟩ := insertFirst_single hi
      have hone := hm m
      simp only [mem_resultMarks_symbol, mem_resultMarks_nil, or_false] at hone
      rw [hf', hi, Option.getD_some, Option.toList_some, List.singleton_append]
      simp only [append, mem_resultMarks_symbol, List.mem_cons, exists_eq_or_imp, ihr]
      rw [← or_assoc, hone]
      tauto
  | leaf l f rest ihr =>
    simp only [insertMatch, mem_resultMarks_leaf, ihr, symbols, or_assoc]

/-- Several hits in turn make results of the marks that each of them would make alone. -/
theorem mem_resultMarks_insertAll {as : List Arrival} {t : Tree} {m : Mark} :
    m ∈ resultMarks [] 0 (t.insertAll as) ↔
      m ∈ resultMarks [] 0 t ∨
        ∃ a ∈ as, ∃ st ∈ t.symbols.landings a.takenAt 0, m = st.mark a.leaf.line := by
  induction as generalizing t with
  | nil => simp [insertAll]
  | cons a as ih =>
    show m ∈ resultMarks [] 0 ((t.insertMatch a).insertAll as) ↔ _
    rw [ih, mem_resultMarks_insertMatch, symbols_insertMatch, or_assoc]
    simp only [List.mem_cons, exists_eq_or_imp]

/-- Marking makes results of the symbols with the property. -/
theorem mem_resultMarks_markWhere {p : Symbol → Bool} {t : Tree} {owner : Path} {i : Nat}
    {m : Mark} :
    m ∈ resultMarks owner i (t.markWhere p) ↔
      m ∈ resultMarks owner i t ∨ ∃ st ∈ t.symbols.tourFrom owner i,
        st.entering = true ∧ p st.symbol = true ∧ m = .symbol st.path := by
  induction t generalizing owner i with
  | nil => simp [markWhere, symbols, SymbolForest.tourFrom]
  | symbol s f cs rest ihc ihr =>
    have hresult : (if cs.anySymbol p then (if p s then f.marked else f).opened
        else if p s then f.marked else f).result = (f.result || p s) := by
      cases cs.anySymbol p <;> cases p s <;> simp [Flags.marked, Flags.opened]
    simp only [markWhere, mem_resultMarks_symbol, ihc, ihr, hresult, Bool.or_eq_true, symbols,
      SymbolForest.tourFrom, List.mem_cons, List.mem_append, or_and_right, exists_or,
      exists_eq_left, Bool.false_eq_true, false_and, false_or, true_and]
    exact (or_congr_right or_or_or_comm).trans or_or_or_comm
  | leaf l f rest ihr =>
    simp only [markWhere, mem_resultMarks_leaf, ihr, symbols, or_assoc]

/-! ## Outlines without leaves -/

/-- A trim outline has a leaf for each line that is the mark of a result. -/
theorem leafless_iff_of_trim {t : Tree} (ht : t.Trim) (owner : Path) (i : Nat) :
    t.Leafless ↔ ∀ m ∈ resultMarks owner i t, m = .symbol m.path := by
  induction t generalizing owner i with
  | nil => simp [Leafless]
  | symbol s f cs rest ihc ihr =>
    rw [Leafless, ihc ht.2.2.1 (owner ++ [i]) 0, ihr ht.2.2.2 owner (i + 1)]
    simp only [mem_resultMarks_symbol, or_imp, forall_and]
    refine iff_and_self.mpr fun _ => ?_
    rintro _ ⟨-, rfl⟩
    rfl
  | leaf l f rest _ =>
    refine iff_of_false id fun h => ?_
    have := h (.line owner l.line.number l.line.text)
      (mem_resultMarks_leaf.mpr (Or.inl ⟨by rw [ht.1]; rfl, rfl⟩))
    cases this

theorem marked_iff_mem {t : Tree} (ht : t.Leafless) {owner : Path} {i : Nat} {p : Path} :
    Marked owner i t p ↔ .symbol p ∈ resultMarks owner i t := by
  induction t generalizing owner i with
  | nil => simp [not_marked_nil]
  | symbol s f cs rest ihc ihr =>
    rw [marked_symbol, mem_resultMarks_symbol, ihc ht.1, ihr ht.2, Mark.symbol.injEq,
      and_comm (a := p = _)]
  | leaf => exact ht.elim

/-! ## Marks above a row -/

theorem symbolPath_append (t : Tree) (p q : Path) :
    Item.symbolPath t (p ++ q) = Item.symbolPath t p ++ Item.symbolPath (t.childrenAt p) q := by
  induction p generalizing t with
  | nil => simp [Item.symbolPath]
  | cons i p ih => simp [Item.symbolPath, ih, childrenAt_cons t i p]

theorem length_symbolPath (t : Tree) (p : Path) : (Item.symbolPath t p).length = p.length := by
  induction p generalizing t with
  | nil => rfl
  | cons i p ih => simp [Item.symbolPath, ih]

/-- What is above the name of a path is the name of what is above the path. -/
theorem exists_of_prefix_symbolPath {t : Tree} {p : Path} {m : Path}
    (h : m <+: Item.symbolPath t p) : ∃ q, q <+: p ∧ Item.symbolPath t q = m := by
  refine ⟨p.take m.length, List.take_prefix _ _, ?_⟩
  have hlen : m.length ≤ p.length := length_symbolPath t p ▸ h.length_le
  have hpre : Item.symbolPath t (p.take m.length) <+: Item.symbolPath t p := by
    have := symbolPath_append t (p.take m.length) (p.drop m.length)
    rw [List.take_append_drop] at this
    exact ⟨_, this.symm⟩
  refine (List.prefix_of_prefix_length_le hpre h ?_).eq_of_length ?_ <;>
    simp [length_symbolPath, hlen]

/-- A path strictly above a row names something on the way to its mark. -/
theorem symbolPath_prefix_mark {t : Tree} {r : Row} {p q : Path} (h : r.path = p ++ q)
    (hq : q ≠ []) : Item.symbolPath t p <+: (r.mark t).path := by
  rw [Row.mark]
  cases r.node with
  | symbol =>
    show _ <+: Item.symbolPath t r.path
    rw [h, symbolPath_append]
    exact List.prefix_append _ _
  | leaf =>
    show _ <+: Item.symbolPath t r.path.dropLast
    rw [h, List.dropLast_append_of_ne_nil hq, symbolPath_append]
    exact List.prefix_append _ _

/-- What is on the way to the mark of a row is the name of a path on the way to the row. -/
theorem exists_of_prefix_mark {t : Tree} {r : Row} {m : Path} (hr : r.path ≠ [])
    (h : m <+: (r.mark t).path) :
    ∃ p q, r.path = p ++ q ∧ Item.symbolPath t p = m ∧ (q = [] → r.mark t = .symbol m) := by
  cases hn : r.node with
  | symbol =>
    simp only [Row.mark, hn, Node.mark, Mark.path] at h ⊢
    obtain ⟨p, ⟨q, hpq⟩, rfl⟩ := exists_of_prefix_symbolPath h
    refine ⟨p, q, hpq.symm, rfl, ?_⟩
    rintro rfl
    rw [← hpq, List.append_nil]
  | leaf =>
    simp only [Row.mark, hn, Node.mark, Mark.path] at h
    obtain ⟨p, hpre, rfl⟩ := exists_of_prefix_symbolPath h
    obtain ⟨q, hpq⟩ := hpre.trans (List.dropLast_prefix _)
    refine ⟨p, q, hpq.symm, rfl, ?_⟩
    rintro rfl
    have hlen := hpre.length_le
    rw [List.append_nil] at hpq
    rw [hpq, List.length_dropLast] at hlen
    have := List.length_pos_iff.mpr hr
    omega

/-- On screen of a trim outline are the results and the symbols above them. -/
theorem mem_map_mark_visible {t : Tree} (ht : t.Trim) {m : Mark} :
    m ∈ t.visible.map (·.mark t) ↔ ∃ q ∈ resultMarks [] 0 t,
      m = q ∨ ∃ p, p ≠ [] ∧ p <+: q.path ∧ m = .symbol p := by
  simp only [visible_of_trim ht, List.mem_map, List.mem_filter, mem_preorder, leads,
    Bool.or_eq_true, List.any_eq_true, mem_resultMarks]
  constructor
  · rintro ⟨r, ⟨hr, hlead⟩, rfl⟩
    have hne : r.path ≠ [] := fun e => by simp [e] at hr
    obtain hres | ⟨r', hbelow, hres⟩ := hlead
    · exact ⟨_, ⟨r, hr, hres, rfl⟩, Or.inl rfl⟩
    · -- a row with a result below it is a symbol, and its mark is on the way to that result
      obtain ⟨q, hq, hp, hr'⟩ := mem_descendants.mp hbelow
      obtain ⟨s, f, hs⟩ := node?_of_append (hp ▸ hr') hne hq
      obtain hnode : r.node = .symbol s f := Option.some.inj (hr.symm.trans hs)
      refine ⟨_, ⟨r', hr', hres, rfl⟩, Or.inr ⟨Item.symbolPath t r.path, ?_,
        symbolPath_prefix_mark hp hq, ?_⟩⟩
      · rw [← List.length_pos_iff, length_symbolPath]
        exact List.length_pos_iff.mpr hne
      · rw [Row.mark, hnode]
        rfl
  · rintro ⟨_, ⟨r', hr', hres, rfl⟩, rfl | ⟨m, hm, hpre, rfl⟩⟩
    · exact ⟨r', ⟨hr', Or.inl hres⟩, rfl⟩
    · have hr : r'.path ≠ [] := fun e => by simp [e] at hr'
      obtain ⟨p, q, hpq, hp, hself⟩ := exists_of_prefix_mark hr hpre
      by_cases hq : q = []
      · exact ⟨r', ⟨hr', Or.inl hres⟩, hself hq⟩
      · have hne : p ≠ [] := by
          rintro rfl
          exact hm hp.symm
        obtain ⟨s, f, hs⟩ := node?_of_append (hpq ▸ hr') hne hq
        have hbelow := mem_descendants.mpr ⟨q, hq, hpq, hr'⟩
        refine ⟨⟨p, .symbol s f⟩, ⟨hs, Or.inr ⟨r', hbelow, hres⟩⟩, ?_⟩
        rw [← hp]
        rfl

end Tree

end Outline
