import Outline.Proofs.Tree.Insert

/-!
# Outlines trimmed to their results

While a query is in force an outline shows its results and the way to them, and nothing else.
`Trim` says so of every node: a symbol is hidden unless it is a result or above one, and unfolded
exactly if it is above one; a leaf is a result. A cleared outline is trim, every insertion and
every marking keeps it trim, in any order, and a trim outline lists exactly the rows that are
results or lead to one (`visible_of_trim`).
-/
namespace Outline.Tree

/-- Whether some node is a result. -/
def hasResult (t : Tree) : Bool := t.nodes.any (·.flags.result)

@[simp] theorem hasResult_nil : hasResult nil = false := rfl

@[simp] theorem hasResult_symbol (s f cs rest) :
    hasResult (symbol s f cs rest) = (f.result || (cs.hasResult || rest.hasResult)) := by
  simp [hasResult, nodes, Node.flags]

@[simp] theorem hasResult_leaf (l f rest) :
    hasResult (leaf l f rest) = (f.result || rest.hasResult) := by
  simp [hasResult, nodes, Node.flags]

/-- A node is shown if it is a result or above one, and unfolded if it is above one. -/
def Trim : Tree → Prop
  | nil => True
  | symbol _ f cs rest =>
    f.hidden = !(f.result || cs.hasResult) ∧ f.expanded = cs.hasResult ∧ cs.Trim ∧ rest.Trim
  | leaf _ f rest => f = .leaf ∧ rest.Trim

/-! ## Cleared outlines -/

@[simp] theorem hasResult_blank (F : SymbolForest) :
    (blank { hidden := true } F).hasResult = false := by
  induction F with
  | nil => rfl
  | cons s cs rest ihc ihr => simp [blank, ihc, ihr]

theorem trim_blank (F : SymbolForest) : (blank { hidden := true } F).Trim := by
  induction F with
  | nil => trivial
  | cons s cs rest ihc ihr => simp [blank, Trim, ihc, ihr]

/-! ## Insertion -/

theorem hasResult_addLeaf (l : HungLeaf) (t : Tree) : (t.addLeaf l).hasResult = true := by
  induction t with
  | nil => rfl
  | symbol s f cs rest _ ihr => rw [addLeaf]; split <;> simp [ihr, Flags.leaf]
  | leaf l' f rest ihr => rw [addLeaf]; split <;> simp [ihr, Flags.leaf]

theorem trim_addLeaf (l : HungLeaf) {t : Tree} (h : t.Trim) : (t.addLeaf l).Trim := by
  induction t with
  | nil => exact ⟨rfl, trivial⟩
  | symbol s f cs rest _ ihr =>
    rw [addLeaf]
    split
    · exact ⟨rfl, h⟩
    · exact ⟨h.1, h.2.1, h.2.2.1, ihr h.2.2.2⟩
  | leaf l' f rest ihr =>
    rw [addLeaf]
    split
    · exact ⟨rfl, h⟩
    · exact ⟨h.1, ihr h.2⟩

/-- The symbols on the way to the hit are above a result now, all others have what they had. -/
theorem Inserts.trim {a : Arrival} {t t' : Tree} (h : Inserts a t t') (ht : t.Trim) :
    t'.Trim ∧ t'.hasResult = true := by
  induction h with
  | start => exact ⟨⟨by simp [Flags.marked], ht.2.1, ht.2.2⟩, by simp [Flags.marked]⟩
  | deeper _ _ ih =>
    obtain ⟨hc, hr⟩ := ih ht.2.2.1
    exact ⟨⟨by simp [Flags.opened, hr], by simp [Flags.opened, hr], hc, ht.2.2.2⟩, by simp [hr]⟩
  | @within s f cs rest _ _ _ =>
    have hl := hasResult_addLeaf (a.leaf.under s) cs
    exact ⟨⟨by simp [Flags.opened, hl], by simp [Flags.opened, hl], trim_addLeaf _ ht.2.2.1,
      ht.2.2.2⟩, by simp [hl]⟩
  | next _ _ _ _ ih =>
    obtain ⟨hc, hr⟩ := ih ht.2.2.2
    exact ⟨⟨ht.1, ht.2.1, ht.2.2.1, hc⟩, by simp [hr]⟩
  | pass _ ih =>
    obtain ⟨hc, hr⟩ := ih ht.2
    exact ⟨⟨ht.1, hc⟩, by simp [hr]⟩

theorem trim_insertMatch (a : Arrival) {t : Tree} (ht : t.Trim) : (t.insertMatch a).Trim := by
  induction t with
  | nil => trivial
  | symbol s f cs rest _ ihr =>
    have hone : (symbol s f cs nil).Trim := ⟨ht.1, ht.2.1, ht.2.2.1, trivial⟩
    obtain ⟨-, h⟩ | ⟨g, ds, hi, h⟩ := insertMatch_symbol a s f cs rest
    · rw [h]
      exact ⟨ht.1, ht.2.1, ht.2.2.1, ihr ht.2.2.2⟩
    · rw [h]
      obtain ⟨hh, he, hds, -⟩ := ((inserts_of_insertFirst hi).trim hone).1
      exact ⟨hh, he, hds, ihr ht.2.2.2⟩
  | leaf l f rest ihr => exact ⟨ht.1, ihr ht.2⟩

theorem trim_insertAll (as : List Arrival) {t : Tree} (ht : t.Trim) : (t.insertAll as).Trim :=
  insertAll_induct as (fun a _ _ h => trim_insertMatch a h) ht

/-! ## Marking -/

theorem hasResult_markWhere (p : Symbol → Bool) (t : Tree) :
    (t.markWhere p).hasResult = (t.hasResult || t.anySymbol p) := by
  induction t with
  | nil => rfl
  | symbol s f cs rest ihc ihr =>
    cases hs : p s <;> cases hc : cs.anySymbol p <;>
      simp [markWhere, anySymbol, hs, hc, ihc, ihr, Flags.marked, Flags.opened, Bool.or_assoc]
  | leaf l f rest ihr => simp [markWhere, anySymbol, ihr, Bool.or_assoc]

theorem trim_markWhere (p : Symbol → Bool) {t : Tree} (ht : t.Trim) : (t.markWhere p).Trim := by
  induction t with
  | nil => trivial
  | symbol s f cs rest ihc ihr =>
    obtain ⟨hh, he, hc, hr⟩ := ht
    refine ⟨?_, ?_, ihc hc, ihr hr⟩ <;> rw [hasResult_markWhere] <;>
      cases hs : p s <;> cases hp : cs.anySymbol p <;>
      simp [hh, he, Flags.marked, Flags.opened]
  | leaf l f rest ihr => exact ⟨ht.1, ihr ht.2⟩

/-! ## The listing -/

/-- Whether a row is a result or has one below it. -/
def leads (t : Tree) (r : Row) : Bool :=
  r.node.flags.result || (t.descendants r.path).any (·.node.flags.result)

theorem leads_eq (t : Tree) (r : Row) :
    t.leads r = (r.node.flags.result || (t.childrenAt r.path).hasResult) := by
  rw [leads, hasResult, ← map_node_descendants, List.any_map]
  rfl

theorem visibleFrom_eq_nil {t : Tree} (ht : t.Trim) (hr : t.hasResult = false) (owner : Path)
    (i : Nat) : visibleFrom owner i t = [] := by
  induction t generalizing i with
  | nil => rfl
  | symbol s f cs rest _ ihr =>
    simp only [hasResult_symbol, Bool.or_eq_false_iff] at hr
    have hh : f.hidden = true := by rw [ht.1, hr.1, hr.2.1]; rfl
    rw [visibleFrom, if_pos hh, ihr ht.2.2.2 hr.2.2]
  | leaf l f rest _ =>
    rw [ht.1] at hr
    simp [Flags.leaf] at hr

/-- Nothing of a cleared outline is on screen. -/
theorem visible_blank (F : SymbolForest) : (blank { hidden := true } F).visible = [] := by
  rw [visible_eq]
  exact visibleFrom_eq_nil (trim_blank F) (hasResult_blank F) [] 0

/-- The rows on screen of siblings counted from `i`; `below` says of a path whether there is a
result below it. -/
theorem visibleFrom_of_trim {t : Tree} (ht : t.Trim) (owner : Path) (i : Nat) (below : Path → Bool)
    (hb : ∀ j q, below (owner ++ (i + j) :: q) = (t.childrenAt (j :: q)).hasResult) :
    visibleFrom owner i t =
      (rowsFrom owner i t).filter fun r => r.node.flags.result || below r.path := by
  induction t generalizing owner i with
  | nil => rfl
  | symbol s f cs rest ihc ihr =>
    obtain ⟨hh, he, hc, hr⟩ := ht
    have hself : below (owner ++ [i]) = cs.hasResult := by simpa [childrenAt] using hb 0 []
    have hcs := ihc hc (owner ++ [i]) 0 fun j q => by simpa [childrenAt] using hb 0 (j :: q)
    have hrest := ihr hr owner (i + 1) fun j q => by
      have := hb (j + 1) q
      rwa [show i + (j + 1) = i + 1 + j by omega] at this
    rw [visibleFrom, rowsFrom, List.filter_cons, List.filter_append, ← hcs, ← hrest]
    simp only [Node.flags, hself, hh, he]
    cases hcr : cs.hasResult with
    | true => simp
    | false => cases hf : f.result <;> simp [visibleFrom_eq_nil hc hcr]
  | leaf l f rest ihr =>
    obtain ⟨rfl, hr⟩ := ht
    have hrest := ihr hr owner (i + 1) fun j q => by
      have := hb (j + 1) q
      rwa [show i + (j + 1) = i + 1 + j by omega] at this
    rw [visibleFrom, rowsFrom, List.filter_cons, ← hrest]
    simp [Flags.leaf, Node.flags]

/-- A trim outline lists the rows that are results or lead to one, and no other. -/
theorem visible_of_trim {t : Tree} (ht : t.Trim) : t.visible = t.preorder.filter t.leads := by
  rw [visible_eq, preorder_eq,
    visibleFrom_of_trim ht [] 0 (fun p => (t.childrenAt p).hasResult) (by simp)]
  exact List.filter_congr fun r _ => (leads_eq t r).symm

theorem resultCount_of_trim {t : Tree} (ht : t.Trim) :
    t.resultCount = t.visible.countP (·.node.flags.result) := by
  rw [visible_of_trim ht, List.countP_filter, resultCount]
  refine List.countP_congr fun r _ => ?_
  cases h : r.node.flags.result <;> simp [leads, h]

end Outline.Tree
