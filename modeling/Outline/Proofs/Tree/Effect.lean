import Outline.Proofs.Tree.Marks

/-!
# What a hit writes

A hit is taken in a root at one symbol, which the first stop of the root's tour names that can take
it; the tour knows no flags and no leaves. What is written there and on the way there is
`Stop.writes`, and the one leaf that may be new moves its later siblings by one place
(`Path.behind`). `Inserts.lands` follows an insertion to its symbol, and `insertMatch_effect` says
that nothing else changes.
-/
namespace Outline

namespace Path

/-- The place of child `j` after a child was put in at place `k`. -/
def place (k j : Nat) : Nat := if j < k then j else j + 1

/-- The path of a node after a child was put in at place `k` below the node at `p`. -/
def behind (p : Path) (k : Nat) (q : Path) : Path :=
  match p, q with
  | _, [] => []
  | [], j :: q => place k j :: q
  | i :: p, j :: q => if i = j then j :: behind p k q else j :: q

theorem place_zero (j : Nat) : place 0 j = j + 1 := rfl

theorem place_succ_succ (k j : Nat) : place (k + 1) (j + 1) = place k j + 1 := by
  unfold place
  split <;> split <;> omega

theorem exists_place {k m : Nat} (h : m ≠ k) : ∃ j, m = place k j := by
  unfold place
  by_cases hlt : m < k
  · exact ⟨m, by rw [if_pos hlt]⟩
  · exact ⟨m - 1, by rw [if_neg (by omega)]; omega⟩

end Path

namespace Stop

variable (st : Stop)

/-- The path of a node after the symbol at `p` took a hit at the stop; a new leaf is child `k`. -/
def moves (p : Path) (k : Nat) (q : Path) : Path := if st.entering then q else p.behind k q

/-- The flags of the node at `q` after the symbol at `p` took a hit at the stop. -/
def writes (p q : Path) (f : Flags) : Flags :=
  if q = p then if st.entering then f.marked else f.opened
  else if q <+: p then f.opened else f

@[simp] theorem moves_nil (p : Path) (k : Nat) : st.moves p k [] = [] := by
  unfold moves
  split
  · rfl
  · cases p <;> rfl

theorem moves_ne_nil (p : Path) (k : Nat) {q : Path} (h : q ≠ []) : st.moves p k q ≠ [] := by
  unfold moves
  split
  · exact h
  · obtain ⟨j, q, rfl⟩ := List.exists_cons_of_ne_nil h
    cases p with
    | nil => exact List.cons_ne_nil _ _
    | cons i p =>
      rw [Path.behind]
      split <;> exact List.cons_ne_nil _ _

theorem moves_cons (i : Nat) (p : Path) (k : Nat) (q : Path) :
    st.moves (i :: p) k (i :: q) = i :: st.moves p k q := by
  unfold moves
  split
  · rfl
  · simp [Path.behind]

theorem moves_of_ne {i j : Nat} (h : i ≠ j) (p : Path) (k : Nat) (q : Path) :
    st.moves (i :: p) k (j :: q) = j :: q := by
  unfold moves
  split
  · rfl
  · simp [Path.behind, h]

theorem writes_cons (i : Nat) (p q : Path) : st.writes (i :: p) (i :: q) = st.writes p q := by
  funext f
  simp [writes]

theorem moves_succ (j m : Nat) (p : Path) (k : Nat) (q : Path) :
    ∃ r, st.moves (j :: p) k (m :: q) = m :: r ∧
      st.moves ((j + 1) :: p) k ((m + 1) :: q) = (m + 1) :: r := by
  by_cases h : j = m
  · subst h
    exact ⟨_, st.moves_cons .., st.moves_cons ..⟩
  · exact ⟨q, st.moves_of_ne h .., st.moves_of_ne (by omega) ..⟩

theorem writes_succ (j m : Nat) (p q : Path) :
    st.writes ((j + 1) :: p) ((m + 1) :: q) = st.writes (j :: p) (m :: q) := by
  funext f
  simp [writes]

theorem writes_of_not_prefix {p q : Path} (h : ¬q <+: p) : st.writes p q = id := by
  have hne : q ≠ p := fun e => h (e ▸ List.prefix_refl q)
  funext f
  simp [writes, h, hne]

end Stop

@[simp] theorem Node.mapFlags_id : Node.mapFlags id = id := by
  funext n
  cases n <;> rfl

namespace Tree

/-! ## A leaf among siblings -/

section

variable (l : HungLeaf) (t : Tree)

theorem node?_addLeaf_self :
    (t.addLeaf l).node? [Item.upTo l.line.number t] = some (.leaf l .leaf) := by
  induction t with
  | nil => rfl
  | symbol s f cs rest _ ihr =>
    rw [addLeaf, Item.upTo]
    split
    · rfl
    · exact ihr
  | leaf l' f rest ihr =>
    rw [addLeaf, Item.upTo]
    split
    · rfl
    · exact ihr

/-- The siblings stay, the later ones a place further. -/
theorem node?_addLeaf (j : Nat) (q : Path) :
    (t.addLeaf l).node? (Path.place (Item.upTo l.line.number t) j :: q) = t.node? (j :: q) := by
  induction t generalizing j with
  | nil => simp [addLeaf, Item.upTo, Path.place_zero]
  | symbol s f cs rest _ ihr =>
    rw [addLeaf, Item.upTo]
    split
    · rfl
    · cases j with
      | zero => rfl
      | succ j =>
        rw [Path.place_succ_succ]
        exact ihr j
  | leaf l' f rest ihr =>
    rw [addLeaf, Item.upTo]
    split
    · rfl
    · cases j with
      | zero => rfl
      | succ j =>
        rw [Path.place_succ_succ]
        exact ihr j

/-- There is nothing but the leaf and the siblings. -/
theorem of_node?_addLeaf {m : Nat} {q : Path} {n : Node}
    (h : (t.addLeaf l).node? (m :: q) = some n) :
    m :: q = [Item.upTo l.line.number t] ∨ ∃ j, m = Path.place (Item.upTo l.line.number t) j := by
  by_cases hm : m = Item.upTo l.line.number t
  · subst hm
    left
    by_contra hq
    have hbelow : q ≠ [] := fun e => hq (by rw [e])
    -- only symbols have something below them
    obtain ⟨s, f, hs⟩ := node?_of_append (p := [Item.upTo l.line.number t]) h (by simp) hbelow
    rw [node?_addLeaf_self] at hs
    cases hs
  · exact .inr (Path.exists_place hm)

end

/-! ## The symbol that takes a hit -/

/-- The first outline becomes the second when the symbol at `p` takes the hit at the stop: flags are
written as `Stop.writes` says, and a symbol that is left gets one leaf, in front of its first child
on a later line and one deeper than itself. -/
structure Writes (a : Arrival) (st : Stop) (p : Path) (t t' : Tree) : Prop where
  node : ∀ q, t'.node? (st.moves p (Item.upTo a.leaf.line.number (t.childrenAt p)) q) =
    (t.node? q).map (·.mapFlags (st.writes p q))
  hung : st.entering = false → ∃ s f, t.node? p = some (.symbol s f) ∧
    t'.node? (p ++ [Item.upTo a.leaf.line.number (t.childrenAt p)]) =
      some (.leaf (a.leaf.under s) .leaf)
  only : ∀ q n, t'.node? q = some n →
    (∃ r, q = st.moves p (Item.upTo a.leaf.line.number (t.childrenAt p)) r) ∨
      st.entering = false ∧ q = p ++ [Item.upTo a.leaf.line.number (t.childrenAt p)]

section

variable {a : Arrival} {st : Stop} {s : Symbol} {f : Flags} {cs cs' rest : Tree}

/-- What is not on the way to the symbol keeps its flags. -/
theorem node?_off {t t' : Tree} {p q q' : Path} (hq : ¬q <+: p) (h : t'.node? q' = t.node? q) :
    t'.node? q' = (t.node? q).map (·.mapFlags (st.writes p q)) := by
  rw [st.writes_of_not_prefix hq, Node.mapFlags_id, Option.map_id]
  exact h

theorem Writes.start (he : st.entering = true) :
    Writes a st [0] (symbol s f cs rest) (symbol s f.marked cs rest) := by
  have hmoves : ∀ k q, st.moves [0] k q = q := fun k q => if_pos he
  refine ⟨fun q => ?_, fun hf => ?_, fun q n _ => .inl ⟨q, (hmoves ..).symm⟩⟩
  · rw [hmoves]
    obtain rfl | rfl | ⟨j, q, rfl⟩ | ⟨m, q, rfl⟩ := path_cases q
    · rfl
    · simp [Stop.writes, he, Node.mapFlags]
    · exact node?_off (by simp) rfl
    · exact node?_off (by simp) rfl
  · rw [he] at hf
    cases hf

theorem Writes.within (he : st.entering = false) :
    Writes a st [0] (symbol s f cs rest)
      (symbol s f.opened (cs.addLeaf (a.leaf.under s)) rest) := by
  have hk : (symbol s f cs rest).childrenAt [0] = cs := by rw [childrenAt, childrenAt_root]
  have hmoves : ∀ k j q, st.moves [0] k (0 :: j :: q) = 0 :: Path.place k j :: q := by
    intro k j q
    simp [Stop.moves, he, Path.behind]
  refine ⟨fun q => ?_, fun _ => ?_, fun q n hq => ?_⟩
  · rw [hk]
    obtain rfl | rfl | ⟨j, q, rfl⟩ | ⟨m, q, rfl⟩ := path_cases q
    · simp
    · rw [Stop.moves_cons, Stop.moves_nil]
      simp [Stop.writes, he, Node.mapFlags]
    · rw [hmoves]
      refine node?_off (by simp) ?_
      rw [node?_symbol_zero, node?_symbol_zero, if_neg (List.cons_ne_nil _ _),
        if_neg (List.cons_ne_nil _ _)]
      exact node?_addLeaf ..
    · rw [st.moves_of_ne (Nat.zero_ne_add_one m)]
      exact node?_off (by simp) rfl
  · rw [hk]
    exact ⟨s, f, rfl, node?_addLeaf_self (a.leaf.under s) cs⟩
  · rw [hk]
    obtain rfl | rfl | ⟨m, q, rfl⟩ | ⟨m, q, rfl⟩ := path_cases q
    · simp at hq
    · exact .inl ⟨[0], by rw [Stop.moves_cons, Stop.moves_nil]⟩
    · rw [node?_symbol_zero, if_neg (List.cons_ne_nil _ _)] at hq
      obtain h | ⟨j, rfl⟩ := of_node?_addLeaf _ _ hq
      · exact .inr ⟨he, by rw [h]; rfl⟩
      · exact .inl ⟨0 :: j :: q, (hmoves ..).symm⟩
    · exact .inl ⟨(m + 1) :: q, (st.moves_of_ne (Nat.zero_ne_add_one m) ..).symm⟩

/-- The way to the symbol is shown and unfolded. -/
theorem Writes.below {p : Path} (hp : p ≠ []) (h : Writes a st p cs cs') :
    Writes a st (0 :: p) (symbol s f cs rest) (symbol s f.opened cs' rest) := by
  have hk : (symbol s f cs rest).childrenAt (0 :: p) = cs.childrenAt p := by rw [childrenAt]
  refine ⟨fun q => ?_, fun he => ?_, fun q n hq => ?_⟩
  · rw [hk]
    obtain rfl | rfl | ⟨j, q, rfl⟩ | ⟨m, q, rfl⟩ := path_cases q
    · simp
    · rw [Stop.moves_cons, node?_symbol_zero, node?_symbol_zero]
      simp [Node.mapFlags, Stop.writes, Ne.symm hp]
    · have hq : j :: q ≠ [] := List.cons_ne_nil _ _
      rw [Stop.moves_cons, node?_symbol_zero, node?_symbol_zero, if_neg hq,
        if_neg (st.moves_ne_nil p _ hq), h.node, Stop.writes_cons]
    · rw [st.moves_of_ne (Nat.zero_ne_add_one m)]
      exact node?_off (by simp) rfl
  · rw [hk, List.cons_append, node?_symbol_zero, node?_symbol_zero, if_neg hp, if_neg (by simp)]
    exact h.hung he
  · rw [hk]
    obtain rfl | rfl | ⟨j, q, rfl⟩ | ⟨m, q, rfl⟩ := path_cases q
    · simp at hq
    · exact .inl ⟨[0], by rw [Stop.moves_cons, Stop.moves_nil]⟩
    · rw [node?_symbol_zero, if_neg (List.cons_ne_nil _ _)] at hq
      obtain ⟨r, hr⟩ | ⟨he, hr⟩ := h.only _ n hq
      · exact .inl ⟨0 :: r, by rw [hr, st.moves_cons]⟩
      · exact .inr ⟨he, by rw [hr]; rfl⟩
    · exact .inl ⟨(m + 1) :: q, (st.moves_of_ne (Nat.zero_ne_add_one m) ..).symm⟩

/-- A sibling in front of them all stays as it is. -/
theorem Writes.after {t t' u u' : Tree} {j : Nat} {p : Path} (h : Writes a st (j :: p) t t')
    (hfirst : ∀ q, u'.node? (0 :: q) = u.node? (0 :: q))
    (ht : ∀ m q, u.node? ((m + 1) :: q) = t.node? (m :: q))
    (ht' : ∀ m q, u'.node? ((m + 1) :: q) = t'.node? (m :: q))
    (hcs : u.childrenAt ((j + 1) :: p) = t.childrenAt (j :: p)) :
    Writes a st ((j + 1) :: p) u u' := by
  refine ⟨fun q => ?_, fun he => ?_, fun q n hq => ?_⟩
  · rw [hcs]
    cases q with
    | nil => simp
    | cons m q =>
      cases m with
      | zero =>
        rw [st.moves_of_ne (Nat.add_one_ne_zero j)]
        exact node?_off (by simp) (hfirst q)
      | succ m =>
        obtain ⟨r, hm, hm'⟩ :=
          st.moves_succ j m p (Item.upTo a.leaf.line.number (t.childrenAt (j :: p))) q
        rw [hm', ht', ht, ← hm, h.node, st.writes_succ]
  · rw [hcs, List.cons_append, ht', ht]
    exact h.hung he
  · rw [hcs]
    cases q with
    | nil => simp at hq
    | cons m q =>
      cases m with
      | zero => exact .inl ⟨0 :: q, (st.moves_of_ne (Nat.add_one_ne_zero j) ..).symm⟩
      | succ m =>
        rw [ht'] at hq
        obtain ⟨r, hr⟩ | ⟨he, hq⟩ := h.only _ n hq
        · cases r with
          | nil => simp at hr
          | cons i r =>
            obtain ⟨r', hm, hm'⟩ :=
              st.moves_succ j i p (Item.upTo a.leaf.line.number (t.childrenAt (j :: p))) r
            rw [hm, List.cons.injEq] at hr
            exact .inl ⟨(i + 1) :: r, by rw [hm', hr.1, hr.2]⟩
        · rw [List.cons_append, List.cons.injEq] at hq
          exact .inr ⟨he, by rw [hq.1, hq.2]; rfl⟩

end

/-! ## Where a hit lands -/

/-- Different symbols have different places among the symbols. -/
theorem eq_of_symbolPath {t : Tree} {p q : Path} {s s' : Symbol} {f f' : Flags}
    (hp : t.node? p = some (.symbol s f)) (hq : t.node? q = some (.symbol s' f'))
    (h : Item.symbolPath t p = Item.symbolPath t q) : p = q := by
  have hlater : ∀ {i j : Nat} {p q : Path}, i :: p = j :: q → (i + 1) :: p = (j + 1) :: q := by
    intro i j p q heq
    cases heq
    rfl
  induction t generalizing p q with
  | nil => simp at hp
  | symbol s₀ f₀ cs rest ihc ihr =>
    rcases p with _ | ⟨_ | i, p⟩
    · simp at hp
    · rcases q with _ | ⟨_ | j, q⟩
      · simp at hq
      · simp only [Item.symbolPath, childrenAt, childrenAt_root, List.cons.injEq, true_and] at h
        have hlen : p.length = q.length := by
          rw [← length_symbolPath cs p, h, length_symbolPath]
        by_cases hnil : p = []
        · rw [hnil, List.length_nil] at hlen
          rw [hnil, List.eq_nil_of_length_eq_zero hlen.symm]
        · have hnil' : q ≠ [] := fun e => hnil (by simpa [e] using hlen)
          rw [node?_symbol_zero, if_neg hnil] at hp
          rw [node?_symbol_zero, if_neg hnil'] at hq
          rw [ihc hp hq h]
      · simp [Item.symbolPath, Item.symbolsBefore] at h
    · rcases q with _ | ⟨_ | j, q⟩
      · simp at hq
      · simp [Item.symbolPath, Item.symbolsBefore] at h
      · refine hlater (ihr (p := i :: p) (q := j :: q) hp hq ?_)
        simpa [Item.symbolPath, Item.symbolsBefore, childrenAt] using h
  | leaf l f₀ rest ihr =>
    rcases p with _ | ⟨_ | i, p⟩
    · simp at hp
    · rw [node?_leaf_zero] at hp
      split at hp <;> cases hp
    · rcases q with _ | ⟨_ | j, q⟩
      · simp at hq
      · rw [node?_leaf_zero] at hq
        split at hq <;> cases hq
      · refine hlater (ihr (p := i :: p) (q := j :: q) hp hq ?_)
        simpa [Item.symbolPath, Item.symbolsBefore, childrenAt] using h

/-- Siblings that took a hit took it at the first stop of their tour that can take it. -/
theorem Inserts.lands {a : Arrival} {t t' : Tree} (h : Inserts a t t') (owner : Path) (i : Nat) :
    ∃ st j q f, (t.symbols.tourFrom owner i).find? a.takenAt = some st ∧
      st.entering = a.startsAt st.symbol ∧ t.node? (j :: q) = some (.symbol st.symbol f) ∧
      st.path = owner ++ (i + Item.symbolsBefore j t) :: Item.symbolPath (t.childrenAt [j]) q ∧
      Writes a st (j :: q) t t' := by
  induction h generalizing owner i with
  | @start s f cs rest hs =>
    refine ⟨⟨owner ++ [i], s, true⟩, 0, [], f, ?_, hs.symm, rfl, rfl, .start rfl⟩
    exact List.find?_cons_of_pos (by simpa [Arrival.takenAt] using hs)
  | @deeper s f cs cs' rest hs _ ih =>
    obtain ⟨st, j, q, g, hst, he, hn, hp, hw⟩ := ih (owner ++ [i]) 0
    refine ⟨st, 0, j :: q, g, ?_, he, hn, ?_, hw.below (List.cons_ne_nil _ _)⟩
    · simp [symbols, SymbolForest.tourFrom, List.find?_cons, Arrival.takenAt, hs, hst]
    · simpa [Item.symbolsBefore, Item.symbolPath, childrenAt] using hp
  | @within s f cs rest hs hc hf =>
    refine ⟨⟨owner ++ [i], s, false⟩, 0, [], f, ?_, hs.symm, rfl, rfl, .within rfl⟩
    obtain ⟨hn, -⟩ | ⟨st, cs', -, hc', -⟩ := insertFirst_marks a cs (owner ++ [i]) 0
    · simp [symbols, SymbolForest.tourFrom, Arrival.takenAt, hs, hn, hf]
    · rw [hc] at hc'
      cases hc'
  | @next s f cs rest rest' hs hc hf _ ih =>
    obtain ⟨st, j, q, g, hst, he, hn, hp, hw⟩ := ih owner (i + 1)
    refine ⟨st, j + 1, q, g, ?_, he, hn, ?_,
      hw.after (fun _ => rfl) (fun _ _ => rfl) (fun _ _ => rfl) rfl⟩
    · obtain ⟨hnone, -⟩ | ⟨st, cs', -, hc', -⟩ := insertFirst_marks a cs (owner ++ [i]) 0
      · simp [symbols, SymbolForest.tourFrom, Arrival.takenAt, hs, hnone, hf, hst]
      · rw [hc] at hc'
        cases hc'
    · rw [hp, Item.symbolsBefore, show i + 1 + Item.symbolsBefore j rest =
        i + (Item.symbolsBefore j rest + 1) by omega]
      rfl
  | @pass l f rest rest' _ ih =>
    obtain ⟨st, j, q, g, hst, he, hn, hp, hw⟩ := ih owner i
    exact ⟨st, j + 1, q, g, hst, he, hn, hp,
      hw.after (fun _ => rfl) (fun _ _ => rfl) (fun _ _ => rfl) rfl⟩

/-! ## The effect of a hit -/

theorem anySymbol_iff {P : Symbol → Bool} {t : Tree} :
    t.anySymbol P = true ↔ ∃ p s f, t.node? p = some (.symbol s f) ∧ P s = true := by
  simp only [anySymbol_eq, List.any_eq_true, mem_symbols_preorder]
  constructor
  · rintro ⟨s, ⟨p, f, hp⟩, hP⟩
    exact ⟨p, s, f, hp, hP⟩
  · rintro ⟨p, s, f, hp, hP⟩
    exact ⟨s, ⟨p, f, hp⟩, hP⟩

theorem length_insertMatch (a : Arrival) (t : Tree) : (t.insertMatch a).length = t.length := by
  induction t with
  | nil => rfl
  | symbol s f cs rest _ ihr =>
    obtain ⟨-, h⟩ | ⟨g, ds, -, h⟩ := insertMatch_symbol a s f cs rest
    · rw [h, length, length, ihr]
    · rw [h, length, length, ihr]
  | leaf l f rest ihr => rw [insertMatch, length, length, ihr]

/-- A root is a single symbol or a leaf. -/
theorem rootAt_insertMatch_eq (a : Arrival) (t : Tree) (i : Nat) :
    (t.insertMatch a).rootAt i = (insertFirst a (t.rootAt i)).getD (t.rootAt i) := by
  rw [rootAt_insertMatch]
  induction t generalizing i with
  | nil => rfl
  | symbol s f cs rest _ ihr =>
    cases i with
    | zero => exact insertMatch_of_single a (.inr ⟨s, f, cs, rfl⟩)
    | succ i => exact ihr i
  | leaf l f rest ihr =>
    cases i with
    | zero => rfl
    | succ i => exact ihr i

/-- A hit is taken exactly if some symbol qualifies. A root with no such symbol stays as it is; in
every other the first stop of the tour that can take the hit names the one symbol that takes it, and
nothing is written but what its `Writes` says. -/
theorem insertMatch_effect (a : Arrival) (t : Tree) :
    (t.takes a = true ↔ ∃ p s f, t.node? p = some (.symbol s f) ∧ a.qualifies s = true) ∧
    (t.insertMatch a).length = t.length ∧
    ∀ i,
      ((¬∃ p s f, (t.rootAt i).node? p = some (.symbol s f) ∧ a.qualifies s = true) →
        (t.insertMatch a).rootAt i = t.rootAt i) ∧
      ((∃ p s f, (t.rootAt i).node? p = some (.symbol s f) ∧ a.qualifies s = true) →
        ∃ st p f, ((t.rootAt i).symbols.tourFrom [] 0).find? a.takenAt = some st ∧
          a.qualifies st.symbol = true ∧ st.entering = a.startsAt st.symbol ∧
          (t.rootAt i).node? p = some (.symbol st.symbol f) ∧
          (∀ q s g, (t.rootAt i).node? q = some (.symbol s g) →
            (Item.symbolPath (t.rootAt i) q = st.path ↔ q = p)) ∧
          Writes a st p (t.rootAt i) ((t.insertMatch a).rootAt i)) := by
  refine ⟨by rw [takes_eq, anySymbol_iff], length_insertMatch a t, fun i => ?_⟩
  rw [← anySymbol_iff, ← isSome_insertFirst, rootAt_insertMatch_eq]
  generalize t.rootAt i = u
  cases hi : insertFirst a u with
  | none => exact ⟨fun _ => rfl, fun h => by cases h⟩
  | some u' =>
    refine ⟨fun h => absurd rfl h, fun _ => ?_⟩
    obtain ⟨st, j, q, f, hst, he, hn, hp, hw⟩ := (inserts_of_insertFirst hi).lands [] 0
    have htaken : a.takenAt st = true := by simpa using List.find?_some hst
    have hqualifies : a.qualifies st.symbol = true := by
      rw [Arrival.takenAt] at htaken
      rw [Arrival.qualifies]
      split at htaken <;> simp [htaken]
    have hpath : Item.symbolPath u (j :: q) = st.path := by
      rw [hp, Item.symbolPath, List.nil_append, Nat.zero_add]
    refine ⟨st, j :: q, f, hst, hqualifies, he, hn, fun q' s g hq' => ⟨fun h => ?_, ?_⟩, hw⟩
    · exact eq_of_symbolPath hq' hn (h.trans hpath.symm)
    · rintro rfl
      exact hpath

end Tree

end Outline
