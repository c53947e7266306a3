import Outline.Proofs.Search.Apply

/-!
# Searching names among some kinds

With a filter of kinds a search of the names marks, by their kind, the symbols on the lines of the
names that satisfy the words. A symbol is therefore a result for the name of any symbol that starts
on its line, and the results are those with both the kind and the name exactly if no name lets in
a symbol that has the kind and not the name (`filteredNames_results`); `filteredNames_astray` shows
one that is let in.
-/
namespace Outline

/-- Among the symbols of some kinds, those that start on the line of a name which satisfies the
words have such a name themselves. -/
def SymbolForest.NamesAgree (ks : List Kind) (ts : List Token) (F : SymbolForest) : Prop :=
  ∀ s ∈ F.preorder, s.kind ∈ ks →
    ∀ n ∈ F.preorder, n.startLine = s.startLine → accepts ts n.startLine n.name = true →
      accepts ts s.startLine s.name = true

instance (ks : List Kind) (ts : List Token) (F : SymbolForest) : Decidable (F.NamesAgree ks ts) :=
  inferInstanceAs (Decidable (∀ s ∈ F.preorder, _))

namespace Search

open Outline.Tree

/-- Where no symbol was a result, the marked ones are. -/
theorem result_markWhere_blank {P : Symbol → Bool} {f₀ : Flags} (h₀ : f₀.result = false)
    {F : SymbolForest} {p : Path} {s : Symbol} {f : Flags}
    (h : ((blank f₀ F).markWhere P).node? p = some (.symbol s f)) : f.result = P s := by
  induction F generalizing p with
  | nil => simp [blank, markWhere] at h
  | cons s' cs rest ihc ihr =>
    rcases p with _ | ⟨_ | i, _ | ⟨j, q⟩⟩
    · simp at h
    · simp only [blank, markWhere, node?_symbol_zero, if_true, Option.some.injEq,
        Node.symbol.injEq] at h
      obtain ⟨rfl, rfl⟩ := h
      cases P s' <;> split <;> simp [Flags.marked, Flags.opened, h₀]
    · exact ihc (p := j :: q) (by simpa [blank, markWhere] using h)
    · exact ihr (p := [i]) h
    · exact ihr (p := i :: j :: q) h

/-- The names that satisfy the words, by the lines that their symbols start on. -/
theorem mem_nameHits_lines {ts : List Token} {ss : List Symbol} {ls : List Leaf}
    (h : nameHits ts ss = .ok ls) (line : Nat) :
    line ∈ ls.map (·.hit.line) ↔
      ∃ n ∈ ss, n.startLine = line ∧ accepts ts n.startLine n.name = true := by
  simp only [List.mem_map, mem_nameHits h, accepts_iff]
  constructor
  · rintro ⟨_, ⟨n, hn, hit, hm, rfl⟩, rfl⟩
    exact ⟨n, hn, (line_of_matchLine hm).symm, hit, hm⟩
  · rintro ⟨n, hn, rfl, hit, hm⟩
    exact ⟨_, ⟨n, hn, hit, hm, rfl⟩, line_of_matchLine hm⟩

/-- **A search of the names among some kinds.** The results are the symbols of these kinds that
start on the line of a name which satisfies the words. They are those with both the kind and the
name if and only if the names on each line agree. -/
theorem filteredNames_results {s s' : Search} {d : Document} {raw : Text} {o : Outcome}
    {ks : List Kind} {ts : List Token} (hm : s.mode ≠ .text) (h : s.apply d raw = (s', .ok o))
    (hq : o.query = .kindsAndTokens ks ts) :
    (∀ p sym f, s'.tree.node? p = some (.symbol sym f) →
      (f.result = true ↔ sym.kind ∈ ks ∧ ∃ n ∈ s.tree.symbols.preorder,
        n.startLine = sym.startLine ∧ accepts ts n.startLine n.name = true)) ∧
    ((∀ p sym f, s'.tree.node? p = some (.symbol sym f) →
        (f.result = true ↔ sym.kind ∈ ks ∧ accepts ts sym.startLine sym.name = true)) ↔
      s.tree.symbols.NamesAgree ks ts) := by
  have hne : o.query ≠ .none := fun e => by rw [e] at hq; cases hq
  obtain ⟨-, hp, -⟩ := apply_ok h hne
  rw [hq] at hp
  obtain ⟨hits, hh, ht⟩ := passTokens_names hm hp
  rw [bare, symbols_blank] at hh
  have hsyms : s'.tree.symbols = s.tree.symbols := by
    rw [ht, withNames, symbols_markWhere, bare, symbols_blank]
  have hresults : ∀ p sym f, s'.tree.node? p = some (.symbol sym f) →
      (f.result = true ↔ sym.kind ∈ ks ∧ ∃ n ∈ s.tree.symbols.preorder,
        n.startLine = sym.startLine ∧ accepts ts n.startLine n.name = true) := by
    intro p sym f hnode
    rw [ht] at hnode
    rw [result_markWhere_blank rfl hnode, Bool.and_eq_true, List.contains_iff_mem,
      List.contains_iff_mem, mem_nameHits_lines hh]
  refine ⟨hresults, fun hboth sym hsym hk n hn hline ha => ?_, fun hagree p sym f hnode => ?_⟩
  · rw [← hsyms] at hsym
    obtain ⟨p, f, hnode⟩ := mem_symbols_preorder.mp hsym
    have hresult := (hresults p sym f hnode).mpr ⟨hk, n, hn, hline, ha⟩
    exact ((hboth p sym f hnode).mp hresult).2
  · have hsym : sym ∈ s.tree.symbols.preorder := hsyms ▸ mem_symbols_preorder.mpr ⟨p, f, hnode⟩
    rw [hresults p sym f hnode]
    constructor
    · rintro ⟨hk, n, hn, hline, ha⟩
      exact ⟨hk, hagree sym hsym hk n hn hline ha⟩
    · rintro ⟨hk, ha⟩
      exact ⟨hk, sym, hsym, rfl, ha⟩

/-- Both names on the second line satisfy the words, so the results are what was asked for. -/
theorem filteredNames_results_sample :
    let s' := ((sample .symbol).apply sampleDocument "#c /[xy]/".toList).1
    let ts := tokenize "/[xy]/".toList
    (sample .symbol).tree.symbols.NamesAgree [.class, .property] ts ∧
      ∀ p sym f, s'.tree.node? p = some (.symbol sym f) →
        (f.result = true ↔
          sym.kind ∈ [Kind.class, .property] ∧ accepts ts sym.startLine sym.name = true) := by
  have h : ((sample .symbol).apply sampleDocument "#c /[xy]/".toList).2 =
      .ok ⟨.kindsAndTokens [.class, .property] (tokenize "/[xy]/".toList), "#c /[xy]/".toList,
        false, 2⟩ := by
    decide +kernel
  have hagree : (sample .symbol).tree.symbols.NamesAgree [.class, .property]
      (tokenize "/[xy]/".toList) := by
    decide +kernel
  exact ⟨hagree, (filteredNames_results (by decide) (Prod.ext rfl h) rfl).2.mpr hagree⟩

/-- Of two names on one line only the second satisfies the word, and both symbols are results. -/
theorem filteredNames_astray :
    ((sample .symbol).apply sampleDocument "#c y".toList).2 =
        .ok ⟨.kindsAndTokens [.class, .property] [{ pattern := ['y'] }], "#c y".toList, false, 2⟩ ∧
      ¬∀ p sym f,
        ((sample .symbol).apply sampleDocument "#c y".toList).1.tree.node? p =
            some (.symbol sym f) →
          (f.result = true ↔ sym.kind ∈ [Kind.class, .property] ∧
            accepts [{ pattern := ['y'] }] sym.startLine sym.name = true) := by
  refine ⟨by decide +kernel, fun h => ?_⟩
  have hx : ((sample .symbol).apply sampleDocument "#c y".toList).1.tree.node? [0, 0] =
      some (.symbol ⟨['x'], .property, .ofCoords 1 4 1 15, none, 1⟩ { result := true }) := by
    decide +kernel
  have hno : accepts [{ pattern := ['y'] }] 1 ['x'] = false := by decide +kernel
  have hyes : accepts [{ pattern := ['y'] }] 1 ['x'] = true := ((h _ _ _ hx).mp rfl).2
  rw [hno] at hyes
  cases hyes

end Search

end Outline
