import Outline.Proofs.Search.Apply
import Outline.Proofs.Tree.Marks

/-!
# Searching names

A search of the names hangs each hit into the outline as if its name were a line, and leaves it to
the line to find the symbol again. The line need not find it: it may be taken by another symbol that
starts there, or get a leaf below one that holds it, in every root anew. `nameSearch_results` says
when the symbols found are those whose names satisfy the words, `nameSearch_astray` shows two names
on one line of which the wrong one is found.
-/
namespace Outline

namespace Stop

/-- The line that the name at a stop is taken for. -/
def nameLine (st : Stop) : Line := Line.whole st.symbol.startLine st.symbol.name

/-- Whether a symbol is entered whose name satisfies the words. -/
def named (ts : List Token) (st : Stop) : Bool :=
  st.entering && accepts ts st.symbol.startLine st.symbol.name

theorem named_iff {ts : List Token} {st : Stop} :
    st.named ts = true ↔
      st.entering = true ∧ accepts ts st.symbol.startLine st.symbol.name = true := by
  rw [named, Bool.and_eq_true]

end Stop

/-- Whether a line may be taken at a stop. -/
def Line.takenAt (l : Line) (st : Stop) : Bool :=
  if st.entering then l.number == st.symbol.startLine else st.symbol.range.contains l.range

theorem Arrival.takenAt_eq {a : Arrival} (h : a.kinds = none) :
    a.takenAt = a.leaf.line.takenAt := by
  funext st
  simp [takenAt, Line.takenAt, startsAt, fitsIn, admits, h]

/-- Every name that satisfies the words reaches its symbol, and nothing but symbols with such
names. -/
def SymbolForest.NamesReach (ts : List Token) (F : SymbolForest) : Prop :=
  ∀ n ∈ F.tourFrom [] 0, n.named ts = true →
    n ∈ F.landings n.nameLine.takenAt 0 ∧
      ∀ st ∈ F.landings n.nameLine.takenAt 0, st.named ts = true

instance (ts : List Token) (F : SymbolForest) : Decidable (F.NamesReach ts) :=
  inferInstanceAs (Decidable (∀ n ∈ F.tourFrom [] 0, _))

namespace Search

open Outline.Tree

/-- The lines of the hits among the names are the lines of the names that satisfy the words. -/
theorem mem_nameHits_line {ts : List Token} {F : SymbolForest} {hits : List Leaf}
    (h : nameHits ts F.preorder = .ok hits) (line : Line) :
    (∃ l ∈ hits, l.line = line) ↔
      ∃ n ∈ F.tourFrom [] 0, n.named ts = true ∧ n.nameLine = line := by
  simp only [mem_nameHits h]
  constructor
  · rintro ⟨l, ⟨s, hs, hit, hm, rfl⟩, rfl⟩
    obtain ⟨p, hp⟩ := SymbolForest.mem_preorder_iff.mp hs
    exact ⟨⟨p, s, true⟩, hp, accepts_iff.mpr ⟨hit, hm⟩, rfl⟩
  · rintro ⟨⟨p, s, e⟩, hn, hs, rfl⟩
    obtain ⟨rfl, ha⟩ := Bool.and_eq_true_iff.mp hs
    obtain ⟨hit, hm⟩ := accepts_iff.mp ha
    exact ⟨_, ⟨s, SymbolForest.mem_preorder_iff.mpr ⟨p, hn⟩, hit, hm, rfl⟩, rfl⟩

/-- The outline in which names were hung has no leaf if all of them land on entering a symbol, and
then the symbols entered there are its results. -/
theorem names_land {ts : List Token} {F : SymbolForest} {hits : List Leaf}
    (h : nameHits ts F.preorder = .ok hits) {t : Tree}
    (ht : t = (blank { hidden := true } F).insertAll (arrivals none hits)) :
    (t.Leafless ↔ ∀ n ∈ F.tourFrom [] 0, n.named ts = true →
      ∀ st ∈ F.landings n.nameLine.takenAt 0, st.entering = true) ∧
    (t.Leafless → ∀ p, Marked [] 0 t p ↔ ∃ n ∈ F.tourFrom [] 0, n.named ts = true ∧
      ∃ st ∈ F.landings n.nameLine.takenAt 0, p = st.path) := by
  have htrim : t.Trim := ht ▸ trim_insertAll _ (trim_blank F)
  have hmark : ∀ m, m ∈ resultMarks [] 0 t ↔ ∃ n ∈ F.tourFrom [] 0, n.named ts = true ∧
      ∃ st ∈ F.landings n.nameLine.takenAt 0, m = st.mark n.nameLine := by
    intro m
    rw [ht, mem_resultMarks_insertAll, resultMarks_blank, symbols_blank,
      or_iff_right List.not_mem_nil]
    have hline := mem_nameHits_line h
    constructor
    · rintro ⟨a, ha, st, hst, rfl⟩
      obtain ⟨l, hl, rfl⟩ := List.mem_map.mp ha
      obtain ⟨n, hmem, hs, e⟩ := (hline l.line).mp ⟨l, hl, rfl⟩
      rw [Arrival.takenAt_eq rfl, ← e] at hst
      exact ⟨n, hmem, hs, st, hst, by rw [e]⟩
    · rintro ⟨n, hmem, hs, st, hst, rfl⟩
      obtain ⟨l, hl, e⟩ := (hline n.nameLine).mpr ⟨n, hmem, hs, rfl⟩
      rw [← e] at hst ⊢
      exact ⟨⟨l, none⟩, List.mem_map.mpr ⟨l, hl, rfl⟩, st, hst, rfl⟩
  have hleaf : t.Leafless ↔ ∀ n ∈ F.tourFrom [] 0, n.named ts = true →
      ∀ st ∈ F.landings n.nameLine.takenAt 0, st.entering = true := by
    rw [leafless_iff_of_trim htrim [] 0]
    constructor
    · intro hm n hn hs st hst
      exact Stop.mark_eq_symbol.mp (hm _ ((hmark _).mpr ⟨n, hn, hs, st, hst, rfl⟩))
    · intro hent m hm
      obtain ⟨n, hn, hs, st, hst, rfl⟩ := (hmark m).mp hm
      exact Stop.mark_eq_symbol.mpr (hent n hn hs st hst)
  refine ⟨hleaf, fun hless p => ?_⟩
  rw [marked_iff_mem hless, hmark]
  have hent := hleaf.mp hless
  constructor
  · rintro ⟨n, hn, hs, st, hst, hp⟩
    rw [Stop.mark, if_pos (hent n hn hs st hst)] at hp
    exact ⟨n, hn, hs, st, hst, Mark.symbol.inj hp⟩
  · rintro ⟨n, hn, hs, st, hst, rfl⟩
    exact ⟨n, hn, hs, st, hst, by rw [Stop.mark, if_pos (hent n hn hs st hst)]⟩

/-- A name that leads to its symbol by the line of some name does so by its own line: the stops that
names land at are entered, so the lines agree, and both are the first of their tour. -/
theorem mem_landings_self {F : SymbolForest} {m n : Stop} (hn : n.entering = true)
    (hmn : n ∈ F.landings m.nameLine.takenAt 0)
    (hent : ∀ st ∈ F.landings n.nameLine.takenAt 0, st.entering = true) :
    n ∈ F.landings n.nameLine.takenAt 0 := by
  obtain ⟨tour, ht, hfind⟩ := SymbolForest.mem_landings.mp hmn
  have hm : m.nameLine.takenAt n = true := List.find?_some hfind
  have hself : n.nameLine.takenAt n = true := by simp [Line.takenAt, hn, Stop.nameLine, Line.whole]
  obtain ⟨y, hy⟩ : ∃ y, tour.find? n.nameLine.takenAt = some y := by
    rw [← Option.isSome_iff_exists, List.find?_isSome]
    exact ⟨n, List.mem_of_find?_eq_some hfind, hself⟩
  have hny : n.nameLine.takenAt y = true := List.find?_some hy
  have he : y.entering = true := hent y (SymbolForest.mem_landings.mpr ⟨tour, ht, hy⟩)
  have hmy : m.nameLine.takenAt y = true := by
    simp only [Line.takenAt, hn, he, if_true, Stop.nameLine, Line.whole, beq_iff_eq] at hm hny ⊢
    exact hm.trans hny
  obtain rfl : n = y := find?_unique hfind hy hself hmy
  exact SymbolForest.mem_landings.mpr ⟨tour, ht, hy⟩

/-- **A search of the names.** The symbols that become results are those whose names satisfy the
words, and no leaf is left, if and only if every such name reaches its symbol and nothing else but
symbols with such names. -/
theorem nameSearch_results {s s' : Search} {d : Document} {raw : Text} {o : Outcome}
    {ts : List Token} (hm : s.mode ≠ .text) (h : s.apply d raw = (s', .ok o))
    (hq : o.query = .tokens ts) :
    ((∀ p sym f, s'.tree.node? p = some (.symbol sym f) →
        (f.result = true ↔ accepts ts sym.startLine sym.name = true)) ∧
      ∀ p l f, s'.tree.node? p ≠ some (.leaf l f)) ↔
    s.tree.symbols.NamesReach ts := by
  have hne : o.query ≠ .none := fun e => by rw [e] at hq; cases hq
  obtain ⟨-, hp, -⟩ := apply_ok h hne
  rw [hq] at hp
  obtain ⟨hits, hh, ht⟩ := passTokens_names hm hp
  rw [bare, symbols_blank] at hh
  have hsyms : s'.tree.symbols = s.tree.symbols := by
    rw [ht, withNames, symbols_insertAll, bare, symbols_blank]
  obtain ⟨hleaf, hmark⟩ := names_land hh ht
  rw [← hsyms] at hleaf hmark ⊢
  constructor
  · rintro ⟨hsel, hno⟩
    have hless := leafless_iff.mpr hno
    have hent := hleaf.mp hless
    intro n hn hs
    obtain ⟨he, ha⟩ := Stop.named_iff.mp hs
    constructor
    · -- the symbol became a result, so some name landed there
      obtain ⟨f, hf⟩ := node?_of_entering hless hn he
      have hmarked := (marked_iff hf).mpr ((hsel _ _ _ hf).mpr ha)
      obtain ⟨m, hm, hms, st, hst, hpath⟩ := (hmark hless n.path).mp hmarked
      have hin := SymbolForest.mem_tourFrom_of_mem_landings hst
      obtain rfl : n = st := eq_of_entering hless hn hin he (hent m hm hms st hst) hpath
      exact mem_landings_self he hst (hent n hn hs)
    · -- where a name lands a symbol becomes a result
      intro st hst
      have hin := SymbolForest.mem_tourFrom_of_mem_landings hst
      have hste := hent n hn hs st hst
      obtain ⟨f, hf⟩ := node?_of_entering hless hin hste
      have hmarked := (hmark hless st.path).mpr ⟨n, hn, hs, st, hst, rfl⟩
      exact Stop.named_iff.mpr ⟨hste, (hsel _ _ _ hf).mp ((marked_iff hf).mp hmarked)⟩
  · intro hreach
    have hless : s'.tree.Leafless :=
      hleaf.mpr fun n hn hs st hst => (Stop.named_iff.mp ((hreach n hn hs).2 st hst)).1
    refine ⟨fun p sym f hf => ?_, leafless_iff.mp hless⟩
    constructor
    · intro hr
      obtain ⟨n, hn, hs, st, hst, rfl⟩ := (hmark hless p).mp ((marked_iff hf).mpr hr)
      obtain ⟨hste, ha⟩ := Stop.named_iff.mp ((hreach n hn hs).2 st hst)
      have hin := SymbolForest.mem_tourFrom_of_mem_landings hst
      obtain ⟨g, hg⟩ := node?_of_entering hless hin hste
      rw [hf, Option.some.injEq, Node.symbol.injEq] at hg
      rwa [hg.1]
    · intro ha
      have hin : ⟨p, sym, true⟩ ∈ s'.tree.symbols.tourFrom [] 0 := (mem_tour hless).mpr ⟨f, hf⟩
      have hs : (⟨p, sym, true⟩ : Stop).named ts = true := Stop.named_iff.mpr ⟨rfl, ha⟩
      exact (marked_iff hf).mp ((hmark hless p).mpr ⟨_, hin, hs, _, (hreach _ hin hs).1, rfl⟩)

/-- The name of the method reaches the method: nothing else starts on its line, and nothing that is
left before holds it. -/
theorem nameSearch_results_sample :
    let s' := ((sample .symbol).apply sampleDocument "#m".toList).1
    (∀ p sym f, s'.tree.node? p = some (.symbol sym f) →
        (f.result = true ↔ accepts [{ pattern := ['m'] }] sym.startLine sym.name = true)) ∧
      ∀ p l f, s'.tree.node? p ≠ some (.leaf l f) := by
  have h : ((sample .symbol).apply sampleDocument "#m".toList).2 =
      .ok ⟨.tokens [{ pattern := ['m'] }], "#m".toList, false, 1⟩ := by
    decide +kernel
  have hreach : (sample .symbol).tree.symbols.NamesReach [{ pattern := ['m'] }] := by decide +kernel
  exact (nameSearch_results (by decide) (Prod.ext rfl h) rfl).mpr hreach

/-- Of two names on one line the first symbol is found, whichever name was searched for. -/
theorem nameSearch_astray :
    ((sample .symbol).apply sampleDocument "#y".toList).2 =
        .ok ⟨.tokens [{ pattern := ['y'] }], "#y".toList, false, 1⟩ ∧
      ¬∀ p sym f,
        ((sample .symbol).apply sampleDocument "#y".toList).1.tree.node? p =
            some (.symbol sym f) →
          (f.result = true ↔ accepts [{ pattern := ['y'] }] sym.startLine sym.name = true) := by
  refine ⟨by decide +kernel, fun h => ?_⟩
  have hx : ((sample .symbol).apply sampleDocument "#y".toList).1.tree.node? [0, 0] =
      some (.symbol ⟨['x'], .property, .ofCoords 1 4 1 15, none, 1⟩ { result := true }) := by
    decide +kernel
  have hno : accepts [{ pattern := ['y'] }] 1 ['x'] = false := by decide +kernel
  have hyes : accepts [{ pattern := ['y'] }] 1 ['x'] = true := (h _ _ _ hx).mp rfl
  rw [hno] at hyes
  cases hyes

end Search

end Outline
