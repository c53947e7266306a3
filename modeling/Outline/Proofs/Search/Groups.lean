import Outline.Proofs.Search.Selection
import Outline.Proofs.Tree.Ancestors
import Outline.Proofs.Tree.Folding

/-!
# One group at a time

Folding a node takes what is below it off the list (`listed_fold`). Unfolding one puts all that is
to be seen below it right behind it, unless it is unfolded already (`listed_unfold`). The selection
is chosen from the rows listed before the change and is found among those listed after it: folding
leaves the row it goes to (`collapse_mem_listed`), and unfolding shows the one it goes to
(`expand_inserts`, `expand_mem_listed`).
-/
namespace Outline

/-- The items of the rows below a node. -/
def Item.below (t : Tree) (p : Path) : List Item := (t.descendants p).map (.present ·.path)

theorem Item.below_eq (t : Tree) (p : Path) :
    Item.below t p = ((t.descendants p).map (·.path)).map .present := by
  rw [Item.below, List.map_map]
  rfl

namespace Navigation

variable {t : Tree} {p : Path}

/-! ## Folding -/

/-- Folding takes off the list what is below the folded node, and nothing else. -/
theorem listed_fold (hp : p ≠ []) :
    Item.listed (t.fold p) = (Item.listed t).filter (· ∉ Item.below t p) := by
  have hpaths := Tree.paths_of_mapFlags (Tree.setAllExpanded_fold true t p)
  rw [Item.listed_eq, Item.listed_eq, hpaths, Item.below_eq, List.filter_map, List.filter_filter]
  refine congrArg _ (List.filter_congr fun q hq => ?_)
  simp only [Function.comp_apply, List.mem_map_of_injective Item.present_injective,
    Tree.mem_paths_below, hq, true_and]
  by_cases hbelow : p <+: q ∧ p ≠ q
  · obtain ⟨⟨r, rfl⟩, hne⟩ := hbelow
    have hr : r ≠ [] := by simpa using hne
    simp [Tree.shows_below_fold hp hr, hr]
  · rw [Tree.shows_fold (fun h => by_contra fun hne => hbelow ⟨h, hne⟩) hp]
    simp [hbelow]

/-- The group that a row is folded with: that of the symbol above it, for a root its own. -/
def group : Path → Path
  | [n] => [n]
  | p => p.dropLast

theorem group_ne_nil (hp : p ≠ []) : group p ≠ [] := by
  match p with
  | [] => exact absurd rfl hp
  | [n] => simp [group]
  | n :: m :: p => simp [group]

theorem collapse_root (t : Tree) (n : Nat) :
    collapse t (.present [n]) = (t.fold (group [n]), .present [(shownRootBefore t n).getD n]) := rfl

theorem collapse_above (t : Tree) (hp : 1 < p.length) :
    collapse t (.present p) = (t.fold (group p), .present (group p)) := by
  match p with
  | [] => simp at hp
  | [n] => simp at hp
  | n :: m :: p => rfl

theorem listed_collapse (hp : p ≠ []) :
    Item.listed (collapse t (.present p)).1 =
      (Item.listed t).filter (· ∉ Item.below t (group p)) := by
  have hfold : (collapse t (.present p)).1 = t.fold (group p) := by
    match p with
    | [] => exact absurd rfl hp
    | [n] => rfl
    | n :: m :: p => rfl
  rw [hfold, listed_fold (group_ne_nil hp)]

/-- Whether there is a root at an index that is not hidden. -/
def RootShown (t : Tree) (k : Nat) : Prop := ∃ n, t.node? [k] = some n ∧ n.flags.hidden = false

/-- The root that a folded root leaves the selection to is the nearest one in front of it that is
not hidden. -/
theorem shownRootBefore_spec (t : Tree) (n : Nat) :
    (∃ k < n, RootShown t k ∧ (∀ m, k < m → m < n → ¬ RootShown t m) ∧
      shownRootBefore t n = some k) ∨
    (∀ m < n, ¬ RootShown t m) ∧ shownRootBefore t n = none := by
  have hpass : ∀ {n : Nat}, ¬ RootShown t n → shownRootBefore t (n + 1) = shownRootBefore t n := by
    intro n hn
    rw [shownRootBefore]
    split
    · rename_i node hnode
      have hh : node.flags.hidden = true := by
        by_contra h
        exact hn ⟨node, hnode, by simpa using h⟩
      rw [if_pos hh]
    · rfl
  induction n with
  | zero => exact .inr ⟨by simp, rfl⟩
  | succ n ih =>
    by_cases hn : RootShown t n
    · obtain ⟨node, hnode, hh⟩ := hn
      refine .inl ⟨n, by omega, ⟨node, hnode, hh⟩, fun m hm hm' => by omega, ?_⟩
      rw [shownRootBefore, hnode]
      simp [hh]
    · have hless : ∀ {m}, m < n + 1 → RootShown t m → m < n := by
        intro m hm hshown
        have : m ≠ n := by rintro rfl; exact hn hshown
        omega
      rw [hpass hn]
      rcases ih with ⟨k, hk, hshown, hbetween, heq⟩ | ⟨hnone, heq⟩
      · exact .inl ⟨k, by omega, hshown, fun m hm hm' h => hbetween m hm (hless hm' h) h, heq⟩
      · exact .inr ⟨fun m hm h => hnone m (hless hm h) h, heq⟩

theorem collapse_root_selects (t : Tree) (n : Nat) :
    (∃ k < n, RootShown t k ∧ (∀ m, k < m → m < n → ¬ RootShown t m) ∧
      (collapse t (.present [n])).2 = .present [k]) ∨
    (∀ m < n, ¬ RootShown t m) ∧ (collapse t (.present [n])).2 = .present [n] := by
  have hsel : (collapse t (.present [n])).2 = .present [(shownRootBefore t n).getD n] :=
    congrArg Prod.snd (collapse_root t n)
  rcases shownRootBefore_spec t n with ⟨k, hk, hroot, hbetween, heq⟩ | ⟨hnone, heq⟩
  · exact .inl ⟨k, hk, hroot, hbetween, by rw [hsel, heq, Option.getD_some]⟩
  · exact .inr ⟨hnone, by rw [hsel, heq, Option.getD_none]⟩

/-- The selection goes to a row that is listed afterwards. -/
theorem collapse_mem_listed {i : Item} (hi : i ∈ Item.listed t) :
    (collapse t i).2 ∈ Item.listed (collapse t i).1 := by
  obtain ⟨p, rfl, hp⟩ := Item.mem_listed.mp hi
  match p with
  | [] => simp at hp
  | [n] =>
    have hfold : ∀ k, t.shows [k] = true →
        .present [k] ∈ Item.listed (collapse t (.present [n])).1 := fun k hk => by
      rw [collapse, Item.present_mem_listed]
      exact (Tree.shows_fold (fun h => by simpa using h) (by simp)).trans hk
    rcases collapse_root_selects t n with ⟨k, -, hk, -, hsel⟩ | ⟨-, hsel⟩
    · rw [hsel]
      exact hfold k (Tree.shows_single.mpr hk)
    · rw [hsel]
      exact hfold n hp
  | n :: m :: p =>
    have hsplit : n :: m :: p = (n :: m :: p).dropLast ++ [(n :: m :: p).getLast (by simp)] :=
      (List.dropLast_append_getLast (by simp)).symm
    have hne : (n :: m :: p).dropLast ≠ [] := by simp
    rw [collapse, Item.present_mem_listed]
    · rw [hsplit] at hp
      exact (Tree.shows_fold (fun _ => rfl) hne).trans (Tree.shows_of_append hne hp)
    · simp

/-! ## Unfolding -/

/-- What is to be seen below a node once it is unfolded, in the order of the list. -/
def shownBelow (t : Tree) (p : Path) : List Item :=
  (Tree.visibleFrom p 0 (t.childrenAt p)).map (.present ·.path)

theorem shownBelow_eq (hp : t.shows p = true) :
    shownBelow t p = (((t.descendants p).map (·.path)).filter
      (t.modify ({ · with expanded := true }) p).shows).map .present := by
  have hon := Tree.visibleFrom_eq_filter (t.childrenAt p) p 0
    (t.modify ({ · with expanded := true }) p).shows fun j q => by
      rw [Nat.zero_add]
      exact Tree.shows_append_unfolded hp (by simp)
  rw [shownBelow, hon, ← Tree.descendants_eq, List.filter_map, List.map_map]
  rfl

theorem shownBelow_subset (hp : t.shows p = true) : shownBelow t p ⊆ Item.below t p := by
  rw [shownBelow_eq hp, Item.below_eq]
  exact List.map_subset _ (List.filter_sublist.subset)

/-- What is listed of the rows below a node: all that is to be seen there if the node is unfolded,
and else nothing. -/
theorem filter_shows_below {n : Node} (hp : t.shows p = true) (hn : t.node? p = some n) :
    (((t.descendants p).map (·.path)).filter t.shows).map .present =
      if n.flags.expanded then shownBelow t p else [] := by
  have hne : p ≠ [] := by rintro rfl; simp at hp
  split
  · rename_i he
    rw [shownBelow_eq hp]
    refine congrArg _ (List.filter_congr fun q hq => ?_)
    obtain ⟨-, ⟨r, rfl⟩, hneq⟩ := Tree.mem_paths_below.mp hq
    rw [Tree.modify_eq_self hn (by rw [← he])]
  · rename_i he
    rw [List.map_eq_nil_iff, List.filter_eq_nil_iff]
    intro q hq hshown
    obtain ⟨-, habove⟩ := Tree.mem_paths_below.mp hq
    obtain ⟨-, -, -, hopen⟩ := Tree.shows_iff.mp hshown
    exact he (hopen p n habove hn).2

/-- Unfolding puts what is to be seen below a node right behind it, unless the node is unfolded
already. -/
theorem listed_unfold {n : Node} (hp : t.shows p = true) (hn : t.node? p = some n) :
    ∃ before after, Item.listed t =
        before ++ .present p :: ((if n.flags.expanded then shownBelow t p else []) ++ after) ∧
      Item.listed (t.modify ({ · with expanded := true }) p) =
        before ++ .present p :: (shownBelow t p ++ after) := by
  have hpaths := Tree.paths_of_mapFlags (Tree.setAllExpanded_unfold true t p)
  have hp' := (t.unfolds_modify p).shows hp
  rw [Item.listed_eq, Item.listed_eq, hpaths, ← filter_shows_below hp hn, shownBelow_eq hp]
  obtain ⟨front, back, hsplit⟩ := Tree.exists_paths_around
    (Tree.mem_paths.mpr (Tree.isSome_node?_of_shows hp))
  generalize hbelow : (t.descendants p).map (·.path) = below at hsplit ⊢
  -- what stands in front of the node and what stands behind those below it is not below it
  have hnodup : (front ++ p :: (below ++ back)).Nodup := hsplit ▸ t.nodup_paths
  have hdisjoint := List.disjoint_of_nodup_append hnodup
  have hrest := (List.nodup_cons.mp (List.nodup_append.mp hnodup).2.1).2
  have hkept : ∀ qs : List Path, qs ⊆ t.paths → qs.Disjoint below →
      qs.filter (t.modify ({ · with expanded := true }) p).shows = qs.filter t.shows := by
    intro qs hqs hout
    refine List.filter_congr fun q hq =>
      Tree.shows_modify (by exact fun _ => rfl) fun hpre => ?_
    by_contra hneq
    exact hout hq (hbelow ▸ Tree.mem_paths_below.mpr ⟨hqs hq, hpre, hneq⟩)
  have hfront := hkept front (fun q hq => by simp [hsplit, hq])
    fun q hq hmem => hdisjoint hq (by simp [hmem])
  have hback := hkept back (fun q hq => by simp [hsplit, hq])
    fun q hq hmem => List.disjoint_of_nodup_append hrest hmem hq
  refine ⟨(front.filter t.shows).map .present, (back.filter t.shows).map .present, ?_, ?_⟩
  · simp [hsplit, hp]
  · simp [hsplit, hp', hfront, hback]

theorem head?_visibleFrom (owner : Path) (i : Nat) (cs : Tree) :
    (Tree.visibleFrom owner i cs).head?.map (·.path) =
      (firstShown i cs).map fun j => owner ++ [j] := by
  fun_induction firstShown i cs with
  | case1 => rfl
  | case2 i s f cs rest hh ih => simpa [Tree.visibleFrom, hh] using ih
  | case3 i s f cs rest hh => simp [Tree.visibleFrom, hh]
  | case4 i l f rest hh ih => simpa [Tree.visibleFrom, hh] using ih
  | case5 i l f rest hh => simp [Tree.visibleFrom, hh]

/-- The selection goes to the row that stands right behind the unfolded one then, if there is one:
to the first of those below it, or else to the one that stood behind it before. -/
theorem expand_selects {before old after : List Item} (hp : p ≠ [])
    (hlisted : Item.listed t = before ++ .present p :: (old ++ after))
    (hold : old = [] ∨ old = shownBelow t p) :
    (expand t (Item.listed t) (.present p)).2 =
      (shownBelow t p ++ after).head?.getD (.present p) := by
  have hhead := head?_visibleFrom p 0 (t.childrenAt p)
  rw [expand, Tree.childrenAt_modify _ _ _ hp]
  cases hfirst : firstShown 0 (t.childrenAt p) with
  | some j =>
    rw [hfirst, Option.map_some, Option.map_eq_some_iff] at hhead
    obtain ⟨r, hr, hpath⟩ := hhead
    simp [shownBelow, List.head?_append, hr, hpath]
  | none =>
    rw [hfirst, Option.map_none, Option.map_eq_none_iff, List.head?_eq_none_iff] at hhead
    have hnone : shownBelow t p = [] := by rw [shownBelow, hhead, List.map_nil]
    have hold' : old = [] := hold.elim id fun h => h.trans hnone
    have hindex : indexOf? (Item.listed t) (.present p) = some before.length := by
      have hnodup := Item.nodup_listed t
      rw [hlisted] at hnodup ⊢
      exact indexOf?_of_around fun hmem =>
        (List.nodup_append.mp hnodup).2.2 _ hmem _ (List.mem_cons_self ..) rfl
    have hnext : (Item.listed t)[before.length + 1]? = after.head? := by
      rw [hlisted, hold', List.nil_append, List.getElem?_append_right (by omega)]
      simp [List.head?_eq_getElem?]
    rw [hindex]
    dsimp only
    rw [hnext, hnone, List.nil_append]

theorem expand_unfolds (t : Tree) (items : List Item) (p : Path) :
    (expand t items (.present p)).1 = t.modify ({ · with expanded := true }) p := by
  rw [expand]
  split <;> rfl

/-- Unfolding a row puts one block right behind it: what is to be seen below it, or nothing if it
was unfolded already. -/
theorem expand_inserts {n : Node} (hp : t.shows p = true) (hn : t.node? p = some n) :
    ∃ before new after, Item.listed t = before ++ .present p :: after ∧
      Item.listed (expand t (Item.listed t) (.present p)).1 =
        before ++ .present p :: (new ++ after) ∧
      new ⊆ Item.below t p ∧ new = (if n.flags.expanded then [] else shownBelow t p) ∧
      (expand t (Item.listed t) (.present p)).2 = (new ++ after).head?.getD (.present p) := by
  have hne : p ≠ [] := by rintro rfl; simp at hp
  obtain ⟨before, after, hlisted, hlisted'⟩ := listed_unfold hp hn
  rw [expand_selects hne hlisted (ite_eq_or_eq ..).symm, expand_unfolds]
  cases he : n.flags.expanded with
  | false =>
    rw [if_neg (by simp [he])] at hlisted
    exact ⟨before, shownBelow t p, after, hlisted, hlisted', shownBelow_subset hp, by simp, rfl⟩
  | true =>
    rw [if_pos he] at hlisted
    exact ⟨before, [], shownBelow t p ++ after, hlisted, hlisted', List.nil_subset _, by simp, rfl⟩

/-- The selection goes to a row that is listed afterwards. -/
theorem expand_mem_listed {i : Item} (hi : i ∈ Item.listed t) :
    (expand t (Item.listed t) i).2 ∈ Item.listed (expand t (Item.listed t) i).1 := by
  obtain ⟨p, rfl, hp⟩ := Item.mem_listed.mp hi
  obtain ⟨n, hn⟩ := Option.isSome_iff_exists.mp (Tree.isSome_node?_of_shows hp)
  obtain ⟨before, new, after, -, hlisted, -, -, hselect⟩ := expand_inserts hp hn
  rw [hselect, hlisted]
  cases new ++ after with
  | nil => simp
  | cons j rest => simp

/-- **Folding and unfolding change the list by one group.** Both change nothing but what is
unfolded. Folding a row that is listed takes exactly what is below one node off the list, which is
the symbol above it, or the row itself where it is a root; the selection goes to that symbol, or for
a root to the nearest root in front of it that is not hidden and else to itself, and is listed
afterwards. Unfolding a row unfolds its node and changes no other. It leaves all rows in the list as
they stand and puts right behind the row all that is to be seen below it, or nothing if the row was
unfolded already; the selection goes to the row that stands behind it then, and stays where no row
does. -/
theorem one_group_at_a_time {t : Tree} {p : Path} (hp : .present p ∈ Item.listed t) :
    let folded := collapse t (.present p)
    let unfolded := expand t (Item.listed t) (.present p)
    (folded.1.setAllExpanded true = t.setAllExpanded true ∧
      Item.listed folded.1 = (Item.listed t).filter (· ∉ Item.below t (group p)) ∧
      folded.2 ∈ Item.listed folded.1 ∧
      (1 < p.length → folded.2 = .present (group p)) ∧
      ∀ n, p = [n] →
        (∃ k < n, RootShown t k ∧ (∀ m, k < m → m < n → ¬ RootShown t m) ∧
          folded.2 = .present [k]) ∨
        (∀ m < n, ¬ RootShown t m) ∧ folded.2 = .present [n]) ∧
    unfolded.1.setAllExpanded true = t.setAllExpanded true ∧
      (∀ q, q ≠ p → unfolded.1.node? q = t.node? q) ∧
      ∃ node before new after, t.node? p = some node ∧
        unfolded.1.node? p = some (node.mapFlags ({ · with expanded := true })) ∧
        Item.listed t = before ++ .present p :: after ∧
        Item.listed unfolded.1 = before ++ .present p :: (new ++ after) ∧
        new ⊆ Item.below t p ∧
        new = (if node.flags.expanded then [] else shownBelow t p) ∧
        unfolded.2 = (new ++ after).head?.getD (.present p) := by
  intro folded unfolded
  have hshown := Item.present_mem_listed.mp hp
  have hne : p ≠ [] := by rintro rfl; simp at hshown
  obtain ⟨node, hnode⟩ := Option.isSome_iff_exists.mp (Tree.isSome_node?_of_shows hshown)
  have hnodes : ∀ q, unfolded.1.node? q =
      (t.modify ({ · with expanded := true }) p).node? q := fun q => by
    rw [← expand_unfolds t (Item.listed t) p]
  refine ⟨⟨Tree.setAllExpanded_collapse true t _, listed_collapse hne, collapse_mem_listed hp,
    fun hlen => congrArg Prod.snd (collapse_above t hlen), ?_⟩,
    Tree.setAllExpanded_expand true t _ _, ?_, ?_⟩
  · rintro n rfl
    exact collapse_root_selects t n
  · intro q hq
    rw [hnodes, Tree.node?_modify]
    simp [hq]
  · have hnode' : unfolded.1.node? p = some (node.mapFlags ({ · with expanded := true })) := by
      rw [hnodes, Tree.node?_modify, hnode]
      simp
    obtain ⟨before, new, after, h⟩ := expand_inserts hshown hnode
    exact ⟨node, before, new, after, hnode, hnode', h⟩

/-- A class that shows one of two methods, a function that is hidden, and a folded class with a
method. -/
def sampleRows : Tree :=
  .symbol ⟨['C'], .class, .ofCoords 0 0 4 8, none, 0⟩ { expanded := true }
    (.symbol ⟨['a'], .method, .ofCoords 1 4 2 8, none, 1⟩ { hidden := true } .nil
      (.symbol ⟨['b'], .method, .ofCoords 3 4 4 8, none, 1⟩ {} .nil .nil))
    (.symbol ⟨['f'], .function, .ofCoords 6 0 7 8, none, 0⟩ { hidden := true } .nil
      (.symbol ⟨['D'], .class, .ofCoords 9 0 11 8, none, 0⟩ {}
        (.symbol ⟨['c'], .method, .ofCoords 10 4 11 8, none, 1⟩ {} .nil .nil) .nil))

/-- Folding the second class selects the first one, as the function between them is hidden.
Unfolding it shows its method. -/
theorem one_group_at_a_time_sample :
    .present [2] ∈ Item.listed sampleRows ∧
      (collapse sampleRows (.present [2])).2 = .present [0] ∧
      (collapse sampleRows (.present [2])).2 ∈
        Item.listed (collapse sampleRows (.present [2])).1 ∧
      ∃ before after, Item.listed sampleRows = before ++ .present [2] :: after ∧
        Item.listed (expand sampleRows (Item.listed sampleRows) (.present [2])).1 =
          before ++ .present [2] :: .present [2, 0] :: after ∧
        .present [2, 0] ∈ Item.below sampleRows [2] := by
  have hp : .present [2] ∈ Item.listed sampleRows := by decide +kernel
  obtain ⟨⟨-, -, hmem, -, hroot⟩, -, -, node, before, new, after, hnode, -, hold, hnew, hbelow, heq,
    -⟩ := one_group_at_a_time hp
  obtain rfl : new = [.present [2, 0]] := by
    cases hnode
    rw [heq]
    decide +kernel
  refine ⟨hp, ?_, hmem, before, after, hold, hnew, hbelow (List.mem_singleton_self _)⟩
  have hfirst : RootShown sampleRows 0 := ⟨_, rfl, rfl⟩
  have hsecond : ¬ RootShown sampleRows 1 := by
    rintro ⟨n, hn, hh⟩
    cases hn
    cases hh
  rcases hroot 2 rfl with ⟨k, hk, hshown, -, hsel⟩ | ⟨hnone, -⟩
  · obtain rfl | rfl : k = 0 ∨ k = 1 := by omega
    · exact hsel
    · exact absurd hshown hsecond
  · exact absurd hfirst (hnone 0 (by omega))

end Navigation

end Outline
