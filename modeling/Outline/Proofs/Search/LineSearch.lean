import Outline.Proofs.Search.Apply

/-!
# Searching lines

A search of the lines neither loses a hit nor shows it twice: every root shows a line that satisfies
the words once if some symbol in it can take the line, and not at all otherwise, and what is shown
is where the query lets it be (`lineSearch_results`).
-/
namespace Outline

open Outline.Tree

/-- Whether a symbol that the query lets through can take a line: it starts on it or holds it. -/
def Query.takesLine (q : Query) (line : Line) (s : Symbol) : Bool :=
  q.admits s && (s.startLine == line.number || s.range.contains line.range)

namespace Tree

theorem any_subtree (p : Symbol → Bool) (t : Tree) (i : Nat) :
    ((t.subtree [i]).any fun r => r.node.symbol?.any p) = (t.rootAt i).anySymbol p := by
  have hn : ((t.subtree [i]).any fun r => r.node.symbol?.any p) =
      ((t.subtree [i]).map (·.node)).any fun n => n.symbol?.any p := by
    rw [List.any_map]; rfl
  rw [hn, map_node_subtree, anySymbol_eq, symbols_preorder, List.any_filterMap]
  refine congrArg (List.any _) (funext fun n => ?_)
  cases n.symbol? <;> rfl

theorem countP_subtree (n : Nat) (t : Tree) (i : Nat) :
    (t.subtree [i]).countP (fun r => r.node.flags.result && r.node.line == n) =
      resultsOn n (t.rootAt i) := by
  rw [resultsOn, ← map_node_subtree, List.countP_map]
  rfl

theorem rootAt_blank (f : Flags) (F : SymbolForest) (i : Nat) :
    ∃ G, (blank f F).rootAt i = blank f G ∧ (blank f G).Single := by
  induction F generalizing i with
  | nil => exact ⟨.nil, rfl, Or.inl rfl⟩
  | cons s cs rest _ ihr =>
    cases i with
    | zero => exact ⟨.cons s cs .nil, rfl, Or.inr ⟨s, f, blank f cs, rfl⟩⟩
    | succ i => exact ihr i

theorem resultsOn_blank (n : Nat) (F : SymbolForest) :
    resultsOn n (blank { hidden := true } F) = 0 := by
  induction F with
  | nil => rfl
  | cons s cs rest ihc ihr => simp [blank, resultsOn_symbol, ihc, ihr]

end Tree

namespace Search

/-- Some line hit that a root can take stands on line `n` exactly if line `n` is a hit that the root
can take. -/
theorem exists_arrival_iff {d : Document} {q : Query} {ts : List Token} {ks : Option (List Kind)}
    {hits : List Leaf} (hh : lineHits d ts = .ok hits)
    (ha : ∀ a : Arrival, a.kinds = ks → ∀ s, a.admits s = q.admits s) {n : Nat} {line : Line}
    (hl : d.lineAt n = .ok line) (u : Tree) :
    (∃ a ∈ arrivals ks hits, u.anySymbol a.qualifies ∧ a.leaf.line.number = n) ↔
      accepts ts n line.text = true ∧ u.anySymbol (q.takesLine line) = true := by
  obtain ⟨ht, hw⟩ := Document.lineAt_eq_ok.mp hl
  have hq : ∀ a : Arrival, a.kinds = ks → a.leaf.line = line → a.qualifies = q.takesLine line := by
    rintro a hk rfl
    funext s
    rw [Arrival.qualifies, Arrival.startsAt, Arrival.fitsIn, ha a hk s, ← Bool.and_or_distrib_left,
      Bool.beq_comm]
    rfl
  rw [accepts_iff]
  constructor
  · rintro ⟨a, hm, hs, hn⟩
    obtain ⟨l, hlm, rfl⟩ := List.mem_map.mp hm
    obtain ⟨m, text, hit, ht', hmatch, rfl⟩ := (mem_lineHits hh l).mp hlm
    obtain rfl : m = n := hn
    obtain rfl : line.text = text := by rw [ht] at ht'; exact Option.some.inj ht'
    exact ⟨⟨hit, hmatch⟩, hq ⟨⟨Line.whole m line.text, hit⟩, ks⟩ rfl hw.symm ▸ hs⟩
  · rintro ⟨⟨hit, hmatch⟩, hs⟩
    have hmem : (⟨Line.whole n line.text, hit⟩ : Leaf) ∈ hits :=
      (mem_lineHits hh _).mpr ⟨n, line.text, hit, ht, hmatch, rfl⟩
    refine ⟨⟨⟨Line.whole n line.text, hit⟩, ks⟩, List.mem_map.mpr ⟨_, hmem, rfl⟩, ?_, rfl⟩
    rw [hq _ rfl hw.symm]
    exact hs

/-- **A search of the lines.** On every line of the document a root shows one result if the line
satisfies the words and some symbol of the root that the query lets through starts on the line or
holds it, and no result otherwise. A symbol that is a result is let through by the query, and a leaf
hangs under a symbol that is and that holds the leaf's line. -/
theorem lineSearch_results {s s' : Search} {d : Document} {raw : Text} {o : Outcome}
    {ts : List Token} (hm : s.mode = .text) (h : s.apply d raw = (s', .ok o))
    (hq : o.query.tokens? = some ts) :
    (∀ (i n : Nat) (line : Line), d.lineAt n = .ok line →
      (s'.tree.subtree [i]).countP (fun r => r.node.flags.result && r.node.line == n) =
        if accepts ts n line.text && (s'.tree.subtree [i]).any fun r =>
          r.node.symbol?.any (o.query.takesLine line) then 1 else 0) ∧
    (∀ p sym f, s'.tree.node? p = some (.symbol sym f) → f.result = true →
      o.query.admits sym = true) ∧
    (∀ p l f, s'.tree.node? p = some (.leaf l f) →
      ∃ sym g, s'.tree.node? p.dropLast = some (.symbol sym g) ∧ o.query.admits sym = true ∧
        sym.range.contains l.line.range = true) := by
  have hne : o.query ≠ .none := fun e => by rw [e] at hq; cases hq
  obtain ⟨-, hp, -⟩ := apply_ok h hne
  obtain ⟨ks, hp, ha⟩ := pass_words hq hp
  rw [hm] at hp
  obtain ⟨hits, hh, ht⟩ := passTokens_text hp
  rw [ht]
  have held : (s.bare.insertAll (arrivals ks hits)).Held o.query.admits none := by
    refine insertAll_induct _ (fun a hmem t hheld => ?_) (held_blank _ _)
    obtain ⟨l, -, rfl⟩ := List.mem_map.mp hmem
    exact held_insertMatch (ha _ rfl) hheld
  refine ⟨fun i n line hl => ?_, fun p sym f => held_result held, fun p l f hn => ?_⟩
  · obtain ⟨G, hG, hsingle⟩ := rootAt_blank { hidden := true } s.tree.symbols i
    have hnodup : ((arrivals ks hits).map (·.leaf.line.number)).Nodup := by
      rw [arrivals, List.map_map]; exact nodup_lineHits hh
    have hone := resultsOn_insertAll hnodup hsingle (fun _ _ => resultsOn_blank _ G) n
    rw [resultsOn_blank, Nat.add_zero] at hone
    rw [countP_subtree, any_subtree, anySymbol_eq, rootAt_insertAll, symbols_insertAll,
      ← anySymbol_eq, bare, hG, hone]
    refine if_congr ?_ rfl rfl
    rw [exists_arrival_iff hh ha hl, Bool.and_eq_true]
  · obtain ⟨sym, hs, hl, ⟨-, hno⟩ | ⟨g, hg⟩⟩ := held_leaf held hn
    · cases hno
    · exact ⟨sym, g, hg, hs, hl⟩

/-- The body of the method is one line with an `x` that a method holds. -/
theorem lineSearch_results_sample :
    (((sample .text).apply sampleDocument "#f x".toList).1.tree.subtree [0]).countP
      (fun r => r.node.flags.result && r.node.line == 3) = 1 := by
  have h : ((sample .text).apply sampleDocument "#f x".toList).2 =
      .ok ⟨.kindsAndTokens [.function, .method] [{ pattern := ['x'] }], "#f x".toList,
        false, 1⟩ := by
    decide +kernel
  have hl : sampleDocument.lineAt (3 : Nat) =
      .ok (.whole 3 "        return self.x".toList) := by
    decide +kernel
  have hone := (lineSearch_results rfl (Prod.ext rfl h) rfl).1 0 3 _ hl
  refine hone.trans (if_pos ?_)
  decide +kernel

end Search

end Outline
