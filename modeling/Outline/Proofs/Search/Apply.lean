import Outline.Proofs.Query.Hits
import Outline.Proofs.Tree.Trim

/-!
# What applying a query does

A query is read from its text alone, the outline it meets is the bare symbols, and what it leaves
is a function of both (`apply_of_none`, `apply_of_query`). `apply_ok` says what is known of a
search after a query that did not end early.
-/
namespace Outline

/-- The words of a query that searches for words. -/
def Query.tokens? : Query → Option (List Token)
  | .tokens ts | .kindsAndTokens _ ts => some ts
  | .none | .kinds _ => Option.none

/-- Whether the query lets a symbol through by its kind. -/
def Query.admits (q : Query) (s : Symbol) : Bool :=
  match q with
  | .kinds ks | .kindsAndTokens ks _ => ks.contains s.kind
  | .none | .tokens _ => true

namespace Search

/-- The text of a query with its sentinel. -/
def prompt (s : Search) (raw : Text) : Text :=
  if (raw.dropPrefix? s.sentinel).isNone then s.sentinel ++ raw else raw

/-- How a query as typed is read. -/
def asked (s : Search) (raw : Text) : Query := Query.parse s.sentinel (s.prompt raw)

/-- The outline that a query starts from: every symbol hidden and folded, and nothing else. -/
def bare (s : Search) : Tree := Tree.blank { hidden := true } s.tree.symbols

theorem apply_of_none {s : Search} {raw : Text} (h : s.asked raw = .none) (d : Document) :
    s.apply d raw =
      ({ s.noted raw with tree := unfiltered s.mode s.tree, status := .idle },
        .ok ⟨.none, s.prompt raw, (raw.dropPrefix? s.sentinel).isNone, 0⟩) := by
  unfold asked prompt at h
  unfold apply noted prompt
  simp only [h]

theorem apply_of_query {s : Search} {raw : Text} (h : s.asked raw ≠ .none) (d : Document) :
    s.apply d raw =
      match pass s.mode d s.bare (s.asked raw) with
      | .ok t =>
        ({ s.noted raw with tree := t, status := .filtering },
          .ok ⟨s.asked raw, s.prompt raw, (raw.dropPrefix? s.sentinel).isNone, t.resultCount⟩)
      | .error a => ({ s.noted raw with tree := s.bare }, .error a) := by
  unfold asked prompt at h
  unfold apply asked prompt bare
  rw [← Tree.clearMatches_hideAll]
  dsimp only [noted]
  generalize Query.parse s.sentinel _ = q at h ⊢
  cases q with
  | none => exact absurd rfl h
  | kinds | tokens | kindsAndTokens => rfl

/-- A query that did not end early was passed over the bare outline, and what that left is the
outline now. -/
theorem apply_ok {s s' : Search} {d : Document} {raw : Text} {o : Outcome}
    (h : s.apply d raw = (s', .ok o)) (hq : o.query ≠ .none) :
    o.query = s.asked raw ∧ pass s.mode d s.bare o.query = .ok s'.tree ∧
      o.resultCount = s'.tree.resultCount := by
  by_cases ha : s.asked raw = .none
  · rw [apply_of_none ha] at h
    cases h
    exact absurd rfl hq
  · rw [apply_of_query ha] at h
    split at h
    · rename_i t hp
      cases h
      exact ⟨rfl, hp, rfl⟩
    · cases h

theorem query_of_apply {s s' : Search} {d : Document} {raw : Text} {o : Outcome}
    (h : s.apply d raw = (s', .ok o)) : o.query = s.asked raw := by
  by_cases hq : s.asked raw = .none
  · rw [apply_of_none hq] at h
    cases h
    exact hq.symm
  · rw [apply_of_query hq] at h
    split at h <;> cases h
    rfl

/-- Whatever comes of a query, it is remembered as typed. -/
theorem memory_apply (s : Search) (d : Document) (raw : Text) :
    (s.apply d raw).1.memory = s.memory.set s.mode raw := by
  by_cases hq : s.asked raw = .none
  · rw [apply_of_none hq]
    rfl
  · rw [apply_of_query hq]
    split <;> rfl

/-- Whatever comes of a query, it is listed once more among those that were applied. -/
theorem searched_apply (s : Search) (d : Document) (raw : Text) :
    (s.apply d raw).1.searched = s.searched ++ [raw] := by
  by_cases hq : s.asked raw = .none
  · rw [apply_of_none hq]
    rfl
  · rw [apply_of_query hq]
    split <;> rfl

theorem completed_of_apply {s s' : Search} {d : Document} {raw : Text} {o : Outcome}
    (h : s.apply d raw = (s', .ok o)) : o.completed = (raw.dropPrefix? s.sentinel).isNone := by
  by_cases hq : s.asked raw = .none
  · rw [apply_of_none hq] at h
    cases h; rfl
  · rw [apply_of_query hq] at h
    split at h <;> cases h
    rfl

/-- A query that ended early leaves the outline that it started from. -/
theorem apply_error {s s' : Search} {d : Document} {raw : Text} {a : Abort}
    (h : s.apply d raw = (s', .error a)) : s'.tree = s.bare := by
  by_cases hq : s.asked raw = .none
  · rw [apply_of_none hq] at h
    cases h
  · rw [apply_of_query hq] at h
    split at h <;> cases h
    rfl

/-! ## Passes that search for words -/

/-- The arrivals of hits that the given kinds may take. -/
def arrivals (kinds : Option (List Kind)) (hits : List Leaf) : List Arrival := hits.map (⟨·, kinds⟩)

theorem passTokens_text {d : Document} {ks : Option (List Kind)} {ts : List Token} {t t' : Tree}
    (h : passTokens .text d ks ts t = .ok t') :
    ∃ hits, lineHits d ts = .ok hits ∧ t' = t.insertAll (arrivals ks hits) := by
  obtain ⟨hits, hl, h⟩ := bind_eq_ok.mp h
  exact ⟨hits, hl, by cases h; rfl⟩

/-- The outline in which the hits among the names are shown: without kinds every hit is hung into it
as if its name were a line, with kinds the symbols of these kinds on the lines of the hits are
marked. -/
def withNames (hits : List Leaf) (t : Tree) : Option (List Kind) → Tree
  | none => t.insertAll (arrivals none hits)
  | some ks => t.markWhere fun s =>
    ks.contains s.kind && (hits.map (·.hit.line)).contains s.startLine

theorem passTokens_names_eq {mode : Mode} (hm : mode ≠ .text) (d : Document)
    (ks : Option (List Kind)) (ts : List Token) (t : Tree) :
    passTokens mode d ks ts t =
      nameHits ts t.symbols.preorder >>= fun hits => .ok (withNames hits t ks) := by
  have hsyms : t.preorder.filterMap (·.node.symbol?) = t.symbols.preorder := by
    rw [Tree.symbols_preorder, ← Tree.map_node_preorder, List.filterMap_map]
    rfl
  rw [← hsyms]
  cases mode with
  | text => exact absurd rfl hm
  | symbol | other => cases ks <;> rfl

theorem passTokens_names {mode : Mode} (hm : mode ≠ .text) {d : Document}
    {ks : Option (List Kind)} {ts : List Token} {t t' : Tree}
    (h : passTokens mode d ks ts t = .ok t') :
    ∃ hits, nameHits ts t.symbols.preorder = .ok hits ∧ t' = withNames hits t ks := by
  rw [passTokens_names_eq hm] at h
  obtain ⟨hits, hn, h⟩ := bind_eq_ok.mp h
  exact ⟨hits, hn, by cases h; rfl⟩

/-- A query for words is a pass over its words, and lets through what its arrivals admit. -/
theorem pass_words {mode : Mode} {d : Document} {q : Query} {ts : List Token} {t t' : Tree}
    (hq : q.tokens? = some ts) (h : pass mode d t q = .ok t') :
    ∃ ks, passTokens mode d ks ts t = .ok t' ∧
      ∀ a : Arrival, a.kinds = ks → ∀ s, a.admits s = q.admits s := by
  cases q with
  | none | kinds => cases hq
  | tokens => cases hq; exact ⟨none, h, fun a ha s => by rw [Arrival.admits, ha]; rfl⟩
  | kindsAndTokens ks => cases hq; exact ⟨some ks, h, fun a ha s => by rw [Arrival.admits, ha]; rfl⟩

/-! ## Trim after every query -/

theorem passTokens_trim {mode : Mode} {d : Document} {ks : Option (List Kind)} {ts : List Token}
    {t t' : Tree} (ht : t.Trim) (h : passTokens mode d ks ts t = .ok t') : t'.Trim := by
  by_cases hm : mode = .text
  · subst hm
    obtain ⟨hits, -, rfl⟩ := passTokens_text h
    exact Tree.trim_insertAll _ ht
  · obtain ⟨hits, -, rfl⟩ := passTokens_names hm h
    cases ks with
    | none => exact Tree.trim_insertAll _ ht
    | some ks => exact Tree.trim_markWhere _ ht

theorem pass_trim {mode : Mode} {d : Document} {t t' : Tree} {q : Query} (ht : t.Trim)
    (h : pass mode d t q = .ok t') : t'.Trim := by
  cases q with
  | none => cases h; exact ht
  | kinds ks =>
    simp only [pass, Except.ok.injEq] at h
    subst h
    split
    · exact ht
    · exact Tree.trim_markWhere _ ht
  | tokens ts => exact passTokens_trim ht h
  | kindsAndTokens ks ts => exact passTokens_trim ht h

/-- **What is on screen.** After every query, in whatever state it was typed, the rows on screen are
those of all rows that are results or have a result below them, in the same order, and the number
that the query reports is that of the results on screen. -/
theorem visible_apply {s s' : Search} {d : Document} {raw : Text} {o : Outcome}
    (h : s.apply d raw = (s', .ok o)) (hq : o.query ≠ .none) :
    s'.tree.visible = s'.tree.preorder.filter s'.tree.leads ∧
      o.resultCount = s'.tree.visible.countP (·.node.flags.result) := by
  obtain ⟨-, hp, hc⟩ := apply_ok h hq
  have ht : s'.tree.Trim := pass_trim (Tree.trim_blank _) hp
  exact ⟨Tree.visible_of_trim ht, by rw [hc, Tree.resultCount_of_trim ht]⟩

/-! ## An outline to look at -/

/-- A class with two names bound on one line and a method. -/
def sampleDocument : Document where
  text := "class C:\n    x, y = 1, 2\n    def m(self):\n        return self.x".toList

def sampleForest : SymbolForest :=
  .single ⟨"C".toList, .class, .ofCoords 0 0 3 21, none, 0⟩
    (.ofList [(⟨"x".toList, .property, .ofCoords 1 4 1 15, none, 0⟩, .nil),
      (⟨"y".toList, .property, .ofCoords 1 4 1 15, none, 0⟩, .nil),
      (⟨"m".toList, .method, .ofCoords 2 4 3 21, "(self)".toList, 0⟩, .nil)])

/-- The search of the sample as it is opened. -/
def sample (mode : Mode) : Search where
  mode := mode
  sentinel := ['#']
  tree := Tree.build sampleForest

/-- The lines with an `x` below functions and methods: the method shows its line, unfolded. -/
theorem visible_apply_sample :
    let s' := ((sample .text).apply sampleDocument "#f x".toList).1
    s'.tree.visible = s'.tree.preorder.filter s'.tree.leads ∧
      1 = s'.tree.visible.countP (·.node.flags.result) := by
  have h : ((sample .text).apply sampleDocument "#f x".toList).2 =
      .ok ⟨.kindsAndTokens [.function, .method] [{ pattern := ['x'] }], "#f x".toList,
        false, 1⟩ := by
    decide +kernel
  exact visible_apply (Prod.ext rfl h) (by decide)

end Search

end Outline
