import Outline.Proofs.Tree.Insert

/-!
# Hits in either order

Which symbol takes a hit depends on the symbols alone, and what it writes there does not stand in
the way of another hit: flags are only raised, and a leaf takes no hit (`Inserts.addLeaf`). Two
leaves under one symbol find the same places in either order if their lines differ
(`addLeaf_comm`). So two hits on the same siblings meet again whichever comes first
(`Inserts.diamond`), and so do two hits on an outline (`insertMatch_either_order`).
-/
namespace Outline.Tree

/-! ## Two leaves -/

/-- The leaf on the earlier line goes in front of the other one, or the two places are apart. -/
theorem addLeaf_comm_of_lt {l l' : HungLeaf} (h : l.line.number < l'.line.number) (t : Tree) :
    (t.addLeaf l).addLeaf l' = (t.addLeaf l').addLeaf l := by
  induction t with
  | nil => simp [addLeaf, h, Nat.lt_asymm h]
  | symbol s f cs rest _ ihr =>
    by_cases hl' : l'.line.number < s.startLine
    · have hl : l.line.number < s.startLine := Nat.lt_trans h hl'
      simp [addLeaf, h, Nat.lt_asymm h, hl, hl']
    · by_cases hl : l.line.number < s.startLine
      · simp [addLeaf, Nat.lt_asymm h, hl, hl']
      · simp [addLeaf, hl, hl', ihr]
  | leaf l₀ f rest ihr =>
    by_cases hl' : l'.line.number < l₀.line.number
    · have hl : l.line.number < l₀.line.number := Nat.lt_trans h hl'
      simp [addLeaf, h, Nat.lt_asymm h, hl, hl']
    · by_cases hl : l.line.number < l₀.line.number
      · simp [addLeaf, Nat.lt_asymm h, hl, hl']
      · simp [addLeaf, hl, hl', ihr]

theorem addLeaf_comm {l l' : HungLeaf} (h : l.line.number ≠ l'.line.number) (t : Tree) :
    (t.addLeaf l).addLeaf l' = (t.addLeaf l').addLeaf l := by
  rcases Nat.lt_or_gt_of_ne h with hlt | hgt
  · exact addLeaf_comm_of_lt hlt t
  · exact (addLeaf_comm_of_lt hgt t).symm

/-! ## A hit beside what another hit wrote -/

variable {a b : Arrival} {t ta tb : Tree}

theorem Inserts.insertFirst_eq (h : Inserts a t ta) : insertFirst a t = some ta := by
  induction h with
  | start hs => simp [insertFirst, hs]
  | deeper hs _ ih => simp [insertFirst, hs, ih]
  | within hs hc hf => simp [insertFirst, hs, hc, hf]
  | next hs hc hf _ ih => simp [insertFirst, hs, hc, hf, ih]
  | pass _ ih => simp [insertFirst, ih]

/-- Siblings of the same symbols take the same hits. -/
theorem isSome_insertFirst_congr (a : Arrival) {t t' : Tree} (h : t'.symbols = t.symbols) :
    (insertFirst a t').isSome = (insertFirst a t).isSome := by
  rw [isSome_insertFirst, isSome_insertFirst, anySymbol_eq, anySymbol_eq, h]

theorem insertFirst_eq_none_congr (a : Arrival) {t t' : Tree} (h : t'.symbols = t.symbols)
    (hn : insertFirst a t = none) : insertFirst a t' = none := by
  rw [← Option.isNone_iff_eq_none, ← Option.not_isSome, isSome_insertFirst_congr a h, hn]
  rfl

/-- A new leaf leaves a hit where it goes: a leaf takes no hit, and the symbols are in front of it
and behind it as before. -/
theorem Inserts.addLeaf (h : Inserts a t ta) (l : HungLeaf) :
    Inserts a (t.addLeaf l) (ta.addLeaf l) := by
  induction h with
  | @start s f cs rest hs =>
    simp only [Tree.addLeaf]
    split
    · exact .pass (.start hs)
    · exact .start hs
  | @deeper s f cs cs' rest hs h _ =>
    simp only [Tree.addLeaf]
    split
    · exact .pass (.deeper hs h)
    · exact .deeper hs h
  | @within s f cs rest hs hc hf =>
    simp only [Tree.addLeaf]
    split
    · exact .pass (.within hs hc hf)
    · exact .within hs hc hf
  | @next s f cs rest rest' hs hc hf h ih =>
    simp only [Tree.addLeaf]
    split
    · exact .pass (.next hs hc hf h)
    · exact .next hs hc hf ih
  | @pass l' f rest rest' h ih =>
    simp only [Tree.addLeaf]
    split
    · exact .pass (.pass h)
    · exact .pass ih

/-- Siblings that took one of two hits on different lines take the other one as before, and it does
not matter which of the two came first. The cases are the ways of the one hit at the first symbol
with those of the other. -/
theorem Inserts.diamond (hline : a.leaf.line.number ≠ b.leaf.line.number) (ha : Inserts a t ta)
    (hb : Inserts b t tb) : ∃ u, Inserts b ta u ∧ Inserts a tb u := by
  induction ha generalizing tb with
  | start hs =>
    cases hb with
    | start hs' => exact ⟨_, .start hs', .start hs⟩
    | deeper hs' h' => exact ⟨_, .deeper hs' h', .start hs⟩
    | within hs' hc' hf' => exact ⟨_, .within hs' hc' hf', .start hs⟩
    | next hs' hc' hf' h' => exact ⟨_, .next hs' hc' hf' h', .start hs⟩
  | deeper hs h ih =>
    cases hb with
    | start hs' => exact ⟨_, .start hs', .deeper hs h⟩
    | deeper hs' h' =>
      obtain ⟨u, hu, hu'⟩ := ih h'
      exact ⟨_, .deeper hs' hu, .deeper hs hu'⟩
    | within hs' hc' hf' =>
      have hnone := insertFirst_eq_none_congr b h.symbols_eq hc'
      exact ⟨_, .within hs' hnone hf', .deeper hs (h.addLeaf _)⟩
    | next hs' hc' hf' h' =>
      have hnone := insertFirst_eq_none_congr b h.symbols_eq hc'
      exact ⟨_, .next hs' hnone hf' h', .deeper hs h⟩
  | @within s f cs rest hs hc hf =>
    have hsame (l : HungLeaf) : (cs.addLeaf l).symbols = cs.symbols := symbols_addLeaf l cs
    cases hb with
    | start hs' => exact ⟨_, .start hs', .within hs hc hf⟩
    | deeper hs' h' =>
      have hnone := insertFirst_eq_none_congr a h'.symbols_eq hc
      exact ⟨_, .deeper hs' (h'.addLeaf _), .within hs hnone hf⟩
    | within hs' hc' hf' =>
      have hnone := insertFirst_eq_none_congr a (hsame (b.leaf.under s)) hc
      have hnone' := insertFirst_eq_none_congr b (hsame (a.leaf.under s)) hc'
      refine ⟨_, .within hs' hnone' hf', ?_⟩
      rw [addLeaf_comm (by exact hline)]
      exact .within hs hnone hf
    | next hs' hc' hf' h' =>
      have hnone' := insertFirst_eq_none_congr b (hsame (a.leaf.under s)) hc'
      exact ⟨_, .next hs' hnone' hf' h', .within hs hc hf⟩
  | @next s f cs rest rest' hs hc hf h ih =>
    cases hb with
    | start hs' => exact ⟨_, .start hs', .next hs hc hf h⟩
    | deeper hs' h' =>
      have hnone := insertFirst_eq_none_congr a h'.symbols_eq hc
      exact ⟨_, .deeper hs' h', .next hs hnone hf h⟩
    | within hs' hc' hf' =>
      have hnone := insertFirst_eq_none_congr a (symbols_addLeaf (b.leaf.under s) cs) hc
      exact ⟨_, .within hs' hc' hf', .next hs hnone hf h⟩
    | next hs' hc' hf' h' =>
      obtain ⟨u, hu, hu'⟩ := ih h'
      exact ⟨_, .next hs' hc' hf' hu, .next hs hc hf hu'⟩
  | pass _ ih =>
    cases hb with
    | pass h' =>
      obtain ⟨u, hu, hu'⟩ := ih h'
      exact ⟨_, .pass hu, .pass hu'⟩

/-! ## The roots -/

theorem insertMatch_comm_of_single (hline : a.leaf.line.number ≠ b.leaf.line.number)
    (ht : t.Single) : (t.insertMatch a).insertMatch b = (t.insertMatch b).insertMatch a := by
  rw [insertMatch_of_single b (single_insertMatch a ht),
    insertMatch_of_single a (single_insertMatch b ht), insertMatch_of_single a ht,
    insertMatch_of_single b ht]
  cases ha : insertFirst a t with
  | none =>
    cases hb : insertFirst b t with
    | none => simp [ha, hb]
    | some tb =>
      have hnone := insertFirst_eq_none_congr a (inserts_of_insertFirst hb).symbols_eq ha
      simp [hb, hnone]
  | some ta =>
    cases hb : insertFirst b t with
    | none =>
      have hnone := insertFirst_eq_none_congr b (inserts_of_insertFirst ha).symbols_eq hb
      simp [ha, hnone]
    | some tb =>
      obtain ⟨u, hu, hu'⟩ :=
        (inserts_of_insertFirst ha).diamond hline (inserts_of_insertFirst hb)
      simp [hu.insertFirst_eq, hu'.insertFirst_eq]

theorem append_assoc (t u v : Tree) : (t.append u).append v = t.append (u.append v) := by
  induction t with
  | nil => rfl
  | symbol s f cs rest _ ihr => simp [append, ihr]
  | leaf l f rest ihr => simp [append, ihr]

/-- Every root is served apart from the others. -/
theorem insertMatch_append (a : Arrival) (t u : Tree) :
    (t.append u).insertMatch a = (t.insertMatch a).append (u.insertMatch a) := by
  induction t with
  | nil => rfl
  | symbol s f cs rest _ ihr => simp [append, insertMatch, ihr, append_assoc]
  | leaf l f rest ihr => simp [append, insertMatch, ihr]

theorem insertMatch_comm (hline : a.leaf.line.number ≠ b.leaf.line.number) (t : Tree) :
    (t.insertMatch a).insertMatch b = (t.insertMatch b).insertMatch a := by
  induction t with
  | nil => rfl
  | symbol s f cs rest _ ihr =>
    have hroot := insertMatch_comm_of_single hline (t := symbol s f cs nil) (.inr ⟨s, f, cs, rfl⟩)
    have hsplit : symbol s f cs rest = (symbol s f cs nil).append rest := rfl
    simp only [hsplit, insertMatch_append, hroot, ihr]
  | leaf l f rest ihr => simp [insertMatch, ihr]

/-- **Hits on different lines can be hung in either order.** The outline is the same afterwards,
with the same leaves in the same places and the same flags, and each of the two hits is taken or
refused as it is when it comes first. -/
theorem insertMatch_either_order {a b : Arrival}
    (hline : a.leaf.line.number ≠ b.leaf.line.number) (t : Tree) :
    (t.insertMatch a).insertMatch b = (t.insertMatch b).insertMatch a ∧
      (t.insertMatch b).takes a = t.takes a ∧ (t.insertMatch a).takes b = t.takes b := by
  refine ⟨insertMatch_comm hline t, ?_, ?_⟩
  · rw [takes_eq, takes_eq, anySymbol_insertMatch]
  · rw [takes_eq, takes_eq, anySymbol_insertMatch]

/-- A class with a method that starts on line 1. -/
def sampleClass : Tree :=
  symbol ⟨['C'], .class, .ofCoords 0 0 3 9, none, 0⟩ {}
    (symbol ⟨['m'], .method, .ofCoords 1 4 2 9, none, 1⟩ {} nil nil) nil

/-- A hit that only classes take. -/
def classHit (line : Nat) : Arrival where
  leaf := ⟨Line.whole line "        x".toList, ⟨line, [⟨8, 1⟩]⟩⟩
  kinds := some [.class]

/-- Two leaves under the class, one of them on the line of the method, whichever comes first. -/
theorem insertMatch_either_order_sample :
    (classHit 1).leaf.line.number ≠ (classHit 2).leaf.line.number ∧
      (sampleClass.insertMatch (classHit 1)).insertMatch (classHit 2) =
        (sampleClass.insertMatch (classHit 2)).insertMatch (classHit 1) ∧
      (((sampleClass.insertMatch (classHit 2)).insertMatch (classHit 1)).nodes.map (·.line)) =
        [0, 1, 1, 2] ∧
      (sampleClass.insertMatch (classHit 2)).takes (classHit 1) = true := by
  have hline : (classHit 1).leaf.line.number ≠ (classHit 2).leaf.line.number := by decide
  obtain ⟨heq, htakes, -⟩ := insertMatch_either_order hline sampleClass
  refine ⟨hline, heq, by decide, htakes.trans ?_⟩
  decide

end Outline.Tree
