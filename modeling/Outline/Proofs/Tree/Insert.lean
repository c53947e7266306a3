import Outline.Proofs.Tree.Symbols
import Outline.Tree.Insert

/-!
# Hanging hits into an outline

`Inserts` says what a hit can do to siblings, one constructor for each way it is taken; what an
insertion keeps is shown by induction on it. A root takes a hit if some symbol in it qualifies
(`isSome_insertFirst`), the roots do not meddle with each other (`rootAt_insertMatch`), and a root
that takes a hit has one result more on its line (`Inserts.resultsOn_eq`). Hits on different
lines therefore leave at most one result a line and root (`resultsOn_insertAll`). Results and
leaves are where the hits could be taken (`Held`).
-/
namespace Outline

theorem Flags.result_opened (f : Flags) : f.opened.result = f.result := rfl

@[simp] theorem Leaf.line_under (l : Leaf) (s : Symbol) : (l.under s).line = l.line := rfl

namespace Tree

/-! ## What an insertion does -/

/-- A hit turns the first siblings into the second. -/
inductive Inserts (a : Arrival) : Tree → Tree → Prop
  | start {s f cs rest} (hs : a.startsAt s = true) :
    Inserts a (symbol s f cs rest) (symbol s f.marked cs rest)
  | deeper {s f cs cs' rest} (hs : a.startsAt s = false) (h : Inserts a cs cs') :
    Inserts a (symbol s f cs rest) (symbol s f.opened cs' rest)
  | within {s f cs rest} (hs : a.startsAt s = false) (hc : insertFirst a cs = none)
    (hf : a.fitsIn s = true) :
    Inserts a (symbol s f cs rest) (symbol s f.opened (cs.addLeaf (a.leaf.under s)) rest)
  | next {s f cs rest rest'} (hs : a.startsAt s = false) (hc : insertFirst a cs = none)
    (hf : a.fitsIn s = false) (h : Inserts a rest rest') :
    Inserts a (symbol s f cs rest) (symbol s f cs rest')
  | pass {l f rest rest'} (h : Inserts a rest rest') : Inserts a (leaf l f rest) (leaf l f rest')

theorem inserts_of_insertFirst {a : Arrival} {t t' : Tree} (h : insertFirst a t = some t') :
    Inserts a t t' := by
  induction t generalizing t' with
  | nil => cases h
  | symbol s f cs rest ihc ihr =>
    rw [insertFirst] at h
    split at h
    · rename_i hs
      cases h
      exact .start hs
    · rename_i hs
      rw [Bool.not_eq_true] at hs
      split at h
      · rename_i cs' hc
        cases h
        exact .deeper hs (ihc hc)
      · rename_i hc
        split at h
        · rename_i hf
          cases h
          exact .within hs hc hf
        · rename_i hf
          obtain ⟨u, hu, rfl⟩ := Option.map_eq_some_iff.mp h
          exact .next hs hc (by simpa using hf) (ihr hu)
  | leaf l f rest ihr =>
    obtain ⟨u, hu, rfl⟩ := Option.map_eq_some_iff.mp h
    exact .pass (ihr hu)

/-- A single symbol that takes a hit stays a single symbol. -/
theorem insertFirst_single {a : Arrival} {s : Symbol} {f : Flags} {cs t' : Tree}
    (h : insertFirst a (symbol s f cs nil) = some t') : ∃ g ds, t' = symbol s g ds nil := by
  rw [insertFirst] at h
  split at h
  · cases h; exact ⟨_, _, rfl⟩
  · split at h
    · cases h; exact ⟨_, _, rfl⟩
    · split at h <;> cases h
      exact ⟨_, _, rfl⟩

/-- A root takes the hit or is left as it is, and those after it are served apart from it. -/
theorem insertMatch_symbol (a : Arrival) (s f cs rest) :
    (insertFirst a (symbol s f cs nil) = none ∧
      insertMatch a (symbol s f cs rest) = symbol s f cs (insertMatch a rest)) ∨
    ∃ g ds, insertFirst a (symbol s f cs nil) = some (symbol s g ds nil) ∧
      insertMatch a (symbol s f cs rest) = symbol s g ds (insertMatch a rest) := by
  rw [insertMatch]
  cases h : insertFirst a (symbol s f cs nil) with
  | none => exact Or.inl ⟨rfl, rfl⟩
  | some t' =>
    obtain ⟨g, ds, rfl⟩ := insertFirst_single h
    exact Or.inr ⟨g, ds, rfl, rfl⟩

/-! ## The symbols stay -/

@[simp] theorem symbols_addLeaf (l : HungLeaf) (t : Tree) : (t.addLeaf l).symbols = t.symbols := by
  induction t with
  | nil => rfl
  | symbol s f cs rest _ ihr => rw [addLeaf]; split <;> simp [symbols, ihr]
  | leaf l' f rest ihr => rw [addLeaf]; split <;> simp [symbols, ihr]

theorem Inserts.symbols_eq {a : Arrival} {t t' : Tree} (h : Inserts a t t') :
    t'.symbols = t.symbols := by
  induction h with
  | start => rfl
  | deeper _ _ ih => simp only [symbols, ih]
  | within => simp only [symbols, symbols_addLeaf]
  | next _ _ _ _ ih => simp only [symbols, ih]
  | pass _ ih => simp only [symbols, ih]

@[simp] theorem symbols_insertMatch (a : Arrival) (t : Tree) :
    (t.insertMatch a).symbols = t.symbols := by
  induction t with
  | nil => rfl
  | symbol s f cs rest _ ihr =>
    obtain ⟨-, h⟩ | ⟨g, ds, hi, h⟩ := insertMatch_symbol a s f cs rest
    · rw [h, symbols, symbols, ihr]
    · have hds : ds.symbols = cs.symbols := by
        simpa [symbols] using (inserts_of_insertFirst hi).symbols_eq
      rw [h, symbols, symbols, ihr, hds]
  | leaf l f rest ihr => exact ihr

/-- What every single hit keeps, several hits in turn keep. -/
theorem insertAll_induct {P : Tree → Prop} (as : List Arrival)
    (hs : ∀ a ∈ as, ∀ t, P t → P (t.insertMatch a)) {t : Tree} (ht : P t) : P (t.insertAll as) := by
  induction as generalizing t with
  | nil => exact ht
  | cons a as ih =>
    exact ih (fun b hb => hs b (List.mem_cons_of_mem _ hb)) (hs a (List.mem_cons_self ..) t ht)

@[simp] theorem symbols_insertAll (as : List Arrival) (t : Tree) :
    (t.insertAll as).symbols = t.symbols :=
  insertAll_induct (P := fun u => u.symbols = t.symbols) as
    (fun a _ u hu => (symbols_insertMatch a u).trans hu) rfl

/-! ## Who takes a hit -/

theorem isSome_insertFirst (a : Arrival) (t : Tree) :
    (insertFirst a t).isSome = t.anySymbol a.qualifies := by
  induction t with
  | nil => rfl
  | symbol s f cs rest ihc ihr =>
    rw [insertFirst, anySymbol, Arrival.qualifies]
    split
    · rename_i hs
      simp [hs]
    · rename_i hs
      cases hc : insertFirst a cs with
      | some cs' => simp [← ihc, hc]
      | none => cases hf : a.fitsIn s <;> simp [← ihc, ← ihr, hc, hs]
  | leaf l f rest ihr => simp [insertFirst, anySymbol, ihr]

theorem takes_eq (a : Arrival) (t : Tree) : t.takes a = t.anySymbol a.qualifies := by
  induction t with
  | nil => rfl
  | symbol s f cs rest _ ihr =>
    rw [takes, isSome_insertFirst, ihr]
    simp [anySymbol]
  | leaf l f rest ihr => exact ihr

theorem anySymbol_insertMatch (p : Symbol → Bool) (a : Arrival) (t : Tree) :
    (t.insertMatch a).anySymbol p = t.anySymbol p := by
  rw [anySymbol_eq, anySymbol_eq, symbols_insertMatch]

/-! ## One root -/

def rootAt : Tree → Nat → Tree
  | nil, _ => nil
  | symbol s f cs _, 0 => symbol s f cs nil
  | leaf l f _, 0 => leaf l f nil
  | symbol _ _ _ rest, i + 1 => rest.rootAt i
  | leaf _ _ rest, i + 1 => rest.rootAt i

def subtree (t : Tree) (p : Path) : List Row :=
  (t.node? p).toList.map (⟨p, ·⟩) ++ t.descendants p

theorem map_node_subtree (t : Tree) (i : Nat) :
    (t.subtree [i]).map (·.node) = (t.rootAt i).nodes := by
  have hself : ((t.node? [i]).toList.map (⟨[i], ·⟩ : Node → Row)).map (·.node) =
      (t.node? [i]).toList := by
    cases t.node? [i] <;> rfl
  rw [subtree, List.map_append, map_node_descendants, hself]
  clear hself
  induction t generalizing i with
  | nil => rfl
  | symbol s f cs rest _ ihr =>
    cases i with
    | zero => simp [rootAt, childrenAt, nodes]
    | succ i => exact ihr i
  | leaf l f rest ihr =>
    cases i with
    | zero => simp [rootAt, childrenAt, nodes]
    | succ i => exact ihr i

/-- No root or one. -/
def Single (t : Tree) : Prop := t = nil ∨ ∃ s f cs, t = symbol s f cs nil

theorem single_insertMatch (a : Arrival) {t : Tree} (ht : t.Single) : (t.insertMatch a).Single := by
  obtain rfl | ⟨s, f, cs, rfl⟩ := ht
  · exact Or.inl rfl
  · obtain ⟨-, h⟩ | ⟨g, ds, -, h⟩ := insertMatch_symbol a s f cs nil
    · exact Or.inr ⟨s, f, cs, h⟩
    · exact Or.inr ⟨s, g, ds, h⟩

theorem insertMatch_of_single (a : Arrival) {t : Tree} (ht : t.Single) :
    t.insertMatch a = (insertFirst a t).getD t := by
  obtain rfl | ⟨s, f, cs, rfl⟩ := ht
  · rfl
  · obtain ⟨hi, h⟩ | ⟨g, ds, hi, h⟩ := insertMatch_symbol a s f cs nil
    · rw [h, hi]; rfl
    · rw [h, hi]; rfl

theorem rootAt_insertMatch (a : Arrival) (t : Tree) (i : Nat) :
    (t.insertMatch a).rootAt i = (t.rootAt i).insertMatch a := by
  induction t generalizing i with
  | nil => rfl
  | symbol s f cs rest _ ihr =>
    have hone := insertMatch_of_single a (t := symbol s f cs nil) (Or.inr ⟨s, f, cs, rfl⟩)
    obtain ⟨hi, h⟩ | ⟨g, ds, hi, h⟩ := insertMatch_symbol a s f cs rest
    · rw [h]
      rw [hi] at hone
      cases i with
      | zero => exact hone.symm
      | succ i => exact ihr i
    · rw [h]
      rw [hi] at hone
      cases i with
      | zero => exact hone.symm
      | succ i => exact ihr i
  | leaf l f rest ihr =>
    cases i with
    | zero => rfl
    | succ i => exact ihr i

theorem rootAt_insertAll (as : List Arrival) (t : Tree) (i : Nat) :
    (t.insertAll as).rootAt i = (t.rootAt i).insertAll as := by
  induction as generalizing t with
  | nil => rfl
  | cons a as ih =>
    show ((t.insertMatch a).insertAll as).rootAt i = ((t.rootAt i).insertMatch a).insertAll as
    rw [ih, rootAt_insertMatch]

/-! ## Results on a line -/

/-- How many results stand on a line. -/
def resultsOn (n : Nat) (t : Tree) : Nat := t.nodes.countP fun x => x.flags.result && x.line == n

theorem resultsOn_symbol (n : Nat) (s f cs rest) :
    resultsOn n (symbol s f cs rest) =
      (if f.result && s.startLine == n then 1 else 0) + (resultsOn n cs + resultsOn n rest) := by
  simp only [resultsOn, nodes, List.countP_cons, List.countP_append, Node.flags, Node.line]
  omega

theorem resultsOn_leaf (n : Nat) (l f rest) :
    resultsOn n (leaf l f rest) =
      (if f.result && l.line.number == n then 1 else 0) + resultsOn n rest := by
  simp only [resultsOn, nodes, List.countP_cons, Node.flags, Node.line]
  omega

theorem resultsOn_addLeaf (n : Nat) (l : HungLeaf) (t : Tree) :
    resultsOn n (t.addLeaf l) = (if l.line.number = n then 1 else 0) + resultsOn n t := by
  induction t with
  | nil => simp [addLeaf, resultsOn_leaf, Flags.leaf]
  | symbol s f cs rest _ ihr =>
    rw [addLeaf]
    split
    · simp [resultsOn_leaf, Flags.leaf]
    · rw [resultsOn_symbol, ihr, resultsOn_symbol]; omega
  | leaf l' f rest ihr =>
    rw [addLeaf]
    split
    · simp [resultsOn_leaf, Flags.leaf]
    · rw [resultsOn_leaf, ihr, resultsOn_leaf]; omega

/-- Where no result stood on the line of the hit, the outline has exactly one result more. -/
theorem Inserts.resultsOn_eq {a : Arrival} {t t' : Tree} (h : Inserts a t t')
    (h0 : resultsOn a.leaf.line.number t = 0) (n : Nat) :
    resultsOn n t' = (if a.leaf.line.number = n then 1 else 0) + resultsOn n t := by
  induction h with
  | @start s f cs rest hs =>
    -- by `h0` the symbol was no result before
    have hline : a.leaf.line.number = s.startLine := by
      simpa using (Bool.and_eq_true_iff.mp hs).2
    rw [resultsOn_symbol, hline] at h0
    have hf : f.result = false := by
      cases hf : f.result <;> simp [hf] at h0 ⊢
    rw [hline]
    simp [resultsOn_symbol, Flags.marked, hf]
  | @deeper s f cs cs' rest _ _ ih =>
    rw [resultsOn_symbol] at h0
    have := ih (by omega)
    rw [resultsOn_symbol, resultsOn_symbol, this, Flags.result_opened]
    omega
  | within =>
    rw [resultsOn_symbol, resultsOn_symbol, resultsOn_addLeaf, Leaf.line_under, Flags.result_opened]
    omega
  | next _ _ _ _ ih =>
    rw [resultsOn_symbol] at h0
    have := ih (by omega)
    rw [resultsOn_symbol, resultsOn_symbol, this]
    omega
  | pass _ ih =>
    rw [resultsOn_leaf] at h0
    have := ih (by omega)
    rw [resultsOn_leaf, resultsOn_leaf, this]
    omega

theorem resultsOn_insertMatch {a : Arrival} {t : Tree} (ht : t.Single)
    (h0 : resultsOn a.leaf.line.number t = 0) (n : Nat) :
    resultsOn n (t.insertMatch a) =
      (if t.anySymbol a.qualifies ∧ a.leaf.line.number = n then 1 else 0) + resultsOn n t := by
  rw [insertMatch_of_single a ht, ← isSome_insertFirst]
  cases h : insertFirst a t with
  | none => simp
  | some t' => simpa using (inserts_of_insertFirst h).resultsOn_eq h0 n

/-- After hits on different lines, a root without results has one result on the line of each hit
that it takes, and no other. -/
theorem resultsOn_insertAll {as : List Arrival} (hd : (as.map (·.leaf.line.number)).Nodup)
    {t : Tree} (ht : t.Single) (h0 : ∀ a ∈ as, resultsOn a.leaf.line.number t = 0) (n : Nat) :
    resultsOn n (t.insertAll as) =
      (if ∃ a ∈ as, t.anySymbol a.qualifies ∧ a.leaf.line.number = n then 1 else 0) +
        resultsOn n t := by
  induction as generalizing t with
  | nil => simp [insertAll]
  | cons a as ih =>
    obtain ⟨ha, hd⟩ := List.nodup_cons.mp hd
    have h1 := resultsOn_insertMatch ht (h0 a (List.mem_cons_self ..))
    have hlater : ∀ b ∈ as, a.leaf.line.number ≠ b.leaf.line.number := fun b hb e =>
      ha (List.mem_map.mpr ⟨b, hb, e.symm⟩)
    show resultsOn n ((t.insertMatch a).insertAll as) = _
    rw [ih hd (single_insertMatch a ht), h1]
    · simp only [anySymbol_insertMatch, List.mem_cons, exists_eq_or_imp]
      by_cases hn : a.leaf.line.number = n
      · have hno : ¬∃ b ∈ as, t.anySymbol b.qualifies ∧ b.leaf.line.number = n := by
          rintro ⟨b, hb, -, e⟩
          exact hlater b hb (hn.trans e.symm)
        simp [hno]
      · simp [hn]
    · intro b hb
      rw [h1, h0 b (List.mem_cons_of_mem _ hb), if_neg fun h => hlater b hb h.2]

/-! ## Where results and leaves are -/

/-- Every result among the symbols has the property, and every leaf hangs under a symbol that has it
and holds the line; `owner` is the symbol above. -/
def Held (q : Symbol → Bool) (owner : Option Symbol) : Tree → Prop
  | nil => True
  | symbol s f cs rest =>
    (f.result = true → q s = true) ∧ cs.Held q (some s) ∧ rest.Held q owner
  | leaf l _ rest =>
    (∃ s ∈ owner, q s = true ∧ s.range.contains l.line.range = true) ∧ rest.Held q owner

variable {q : Symbol → Bool}

theorem held_blank (F : SymbolForest) (owner : Option Symbol) :
    (blank { hidden := true } F).Held q owner := by
  induction F generalizing owner with
  | nil => trivial
  | cons s cs rest ihc ihr => exact ⟨nofun, ihc _, ihr _⟩

theorem held_addLeaf {l : HungLeaf} {s : Symbol} (hs : q s = true)
    (hl : s.range.contains l.line.range = true) {t : Tree} (ht : t.Held q (some s)) :
    (t.addLeaf l).Held q (some s) := by
  induction t with
  | nil => exact ⟨⟨s, rfl, hs, hl⟩, trivial⟩
  | symbol s' f cs rest _ ihr =>
    rw [addLeaf]
    split
    · exact ⟨⟨s, rfl, hs, hl⟩, ht⟩
    · exact ⟨ht.1, ht.2.1, ihr ht.2.2⟩
  | leaf l' f rest ihr =>
    rw [addLeaf]
    split
    · exact ⟨⟨s, rfl, hs, hl⟩, ht⟩
    · exact ⟨ht.1, ihr ht.2⟩

theorem Inserts.held {a : Arrival} (ha : ∀ s, a.admits s = q s) {t t' : Tree}
    (h : Inserts a t t') {owner : Option Symbol} (ht : t.Held q owner) : t'.Held q owner := by
  induction h generalizing owner with
  | start hs => exact ⟨fun _ => ha _ ▸ (Bool.and_eq_true_iff.mp hs).1, ht.2⟩
  | deeper _ _ ih => exact ⟨ht.1, ih ht.2.1, ht.2.2⟩
  | within _ _ hf =>
    obtain ⟨hq, hl⟩ := Bool.and_eq_true_iff.mp hf
    exact ⟨ht.1, held_addLeaf (l := a.leaf.under _) (ha _ ▸ hq) hl ht.2.1, ht.2.2⟩
  | next _ _ _ _ ih => exact ⟨ht.1, ht.2.1, ih ht.2.2⟩
  | pass _ ih => exact ⟨ht.1, ih ht.2⟩

theorem held_insertMatch {a : Arrival} (ha : ∀ s, a.admits s = q s) {t : Tree}
    {owner : Option Symbol} (ht : t.Held q owner) : (t.insertMatch a).Held q owner := by
  induction t with
  | nil => trivial
  | symbol s f cs rest _ ihr =>
    have hone : (symbol s f cs nil).Held q owner := ⟨ht.1, ht.2.1, trivial⟩
    obtain ⟨-, h⟩ | ⟨g, ds, hi, h⟩ := insertMatch_symbol a s f cs rest
    · rw [h]
      exact ⟨ht.1, ht.2.1, ihr ht.2.2⟩
    · rw [h]
      obtain ⟨hg, hds, -⟩ := (inserts_of_insertFirst hi).held ha hone
      exact ⟨hg, hds, ihr ht.2.2⟩
  | leaf l f rest ihr => exact ⟨ht.1, ihr ht.2⟩

theorem held_result {t : Tree} {owner : Option Symbol} (ht : t.Held q owner) {p : Path}
    {s : Symbol} {f : Flags} (hp : t.node? p = some (.symbol s f)) (hf : f.result = true) :
    q s = true := by
  induction t generalizing owner p with
  | nil => simp at hp
  | symbol s' g cs rest ihc ihr =>
    match p with
    | [] => simp at hp
    | [0] =>
      simp only [node?_symbol_zero, if_true, Option.some.injEq, Node.symbol.injEq] at hp
      obtain ⟨rfl, rfl⟩ := hp
      exact ht.1 hf
    | 0 :: j :: r => exact ihc ht.2.1 (by simpa using hp)
    | (i + 1) :: r => exact ihr ht.2.2 hp
  | leaf l g rest ihr =>
    match p with
    | [] => simp at hp
    | [0] => simp at hp
    | 0 :: j :: r => simp at hp
    | (i + 1) :: r => exact ihr ht.2 hp

/-- A leaf among the siblings hangs under `owner`, one further below under the symbol at the path
above it. -/
theorem held_leaf {t : Tree} {owner : Option Symbol} (ht : t.Held q owner) {p : Path} {l : HungLeaf}
    {f : Flags} (hp : t.node? p = some (.leaf l f)) :
    ∃ s, q s = true ∧ s.range.contains l.line.range = true ∧
      ((p.length = 1 ∧ owner = some s) ∨ ∃ g, t.node? p.dropLast = some (.symbol s g)) := by
  induction t generalizing owner p with
  | nil => simp at hp
  | symbol s' g cs rest ihc ihr =>
    match p with
    | [] => simp at hp
    | [0] => simp at hp
    | 0 :: j :: r =>
      obtain ⟨s, hs, hl, h⟩ := ihc ht.2.1 (p := j :: r) (by simpa using hp)
      refine ⟨s, hs, hl, Or.inr ?_⟩
      obtain ⟨h1, h2⟩ | ⟨g', h'⟩ := h
      · obtain rfl : r = [] := by simpa using h1
        cases h2
        exact ⟨g, rfl⟩
      · cases r with
        | nil => simp at h'
        | cons k r => exact ⟨g', by simpa using h'⟩
    | (i + 1) :: r =>
      obtain ⟨s, hs, hl, h⟩ := ihr ht.2.2 (p := i :: r) hp
      refine ⟨s, hs, hl, h.imp_right fun ⟨g', h'⟩ => ⟨g', ?_⟩⟩
      cases r with
      | nil => simp at h'
      | cons k r => simpa using h'
  | leaf l' g rest ihr =>
    match p with
    | [] => simp at hp
    | [0] =>
      simp only [node?_leaf_zero, if_true, Option.some.injEq, Node.leaf.injEq] at hp
      obtain ⟨rfl, rfl⟩ := hp
      obtain ⟨s, ho, hs, hl⟩ := ht.1
      exact ⟨s, hs, hl, Or.inl ⟨rfl, ho⟩⟩
    | 0 :: j :: r => simp at hp
    | (i + 1) :: r =>
      obtain ⟨s, hs, hl, h⟩ := ihr ht.2 (p := i :: r) hp
      refine ⟨s, hs, hl, h.imp_right fun ⟨g', h'⟩ => ⟨g', ?_⟩⟩
      cases r with
      | nil => simp at h'
      | cons k r => simpa using h'

end Tree

end Outline
