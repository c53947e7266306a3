import Outline.Proofs.Source.Outcome

/-!
# How the ranges of symbols nest

A statement inside another one has a range inside the other's (`Encloses.contains`), and every
further line of a statement has (`contains_line`). With the order of statements (`between_read`)
this gives how the symbols of a module stand to each other (`symbols_nest`).
-/
namespace Outline.Source

/-! ## The range of a statement -/

namespace Extent

variable {d : Document} {x y : Extent} {r r' : Range}

theorem start_eq (h : x.range d = .ok r) : r.start = x.place := by
  obtain ⟨text, -, rfl⟩ := range_eq_ok h
  rfl

theorem Encloses.contains (hxy : x.Encloses y) (hx : x.range d = .ok r) (hy : y.range d = .ok r') :
    r.contains r' = true := by
  obtain ⟨last, hlast, rfl⟩ := range_eq_ok hx
  obtain ⟨last', hlast', rfl⟩ := range_eq_ok hy
  refine Range.contains_iff.mpr ⟨hxy.starts, Position.le_iff.mpr ?_⟩
  rcases Nat.lt_or_eq_of_le hxy.ends with hlt | heq
  · exact .inl hlt
  · rw [heq, hlast] at hlast'
    cases hlast'
    exact .inr ⟨heq, Nat.le_refl _⟩

/-- The range of a statement covers its lines, the first one aside. -/
theorem contains_line (hx : x.range d = .ok r) {n : Nat} (hstart : r.start.line < n)
    (hstop : n ≤ r.stop.line) : ∃ line, d.lineAt n = .ok line ∧ r.contains line.range = true := by
  obtain ⟨text, htext, rfl⟩ := range_eq_ok hx
  have hlength := (List.getElem?_eq_some_iff.mp htext).1
  have hn : n < d.lines.length := Nat.lt_of_le_of_lt hstop hlength
  have hline : d.lineAt n = .ok (Line.whole n d.lines[n]) :=
    Document.lineAt_eq_ok.mpr ⟨List.getElem?_eq_getElem hn, rfl⟩
  refine ⟨_, hline, Range.contains_iff.mpr ⟨Position.le_iff.mpr (.inl hstart), ?_⟩⟩
  refine Position.le_iff.mpr ?_
  rcases Nat.lt_or_eq_of_le hstop with hlt | heq
  · exact .inl hlt
  · have hsame : n = x.lastLine := heq
    subst hsame
    rw [List.getElem?_eq_getElem hn] at htext
    cases htext
    exact .inr ⟨rfl, Nat.le_refl _⟩

end Extent

/-! ## The symbols of a block -/

/-- How the symbols of a block stand to its statements and to each other. -/
structure Block.Shows (b : Block) (d : Document) (F : SymbolForest) : Prop where
  roots : ∀ s ∈ F.roots, ∃ x ∈ b.extents, x.range d = .ok s.range
  preorder : ∀ s ∈ F.preorder, ∃ x : Extent, x.range d = .ok s.range
  sorted : F.Sorted
  nested : F.Nested

namespace Block

variable {d : Document}

theorem shows_nil : nil.Shows d .nil := ⟨nofun, nofun, trivial, trivial⟩

/-- The symbols of the later statements. -/
theorem Shows.behind {b rest : Block} {F : SymbolForest} (h : rest.Shows d F)
    (hb : rest.extents ⊆ b.extents) : b.Shows d F := by
  refine ⟨fun s hs => ?_, h.preorder, h.sorted, h.nested⟩
  obtain ⟨x, hx, hrange⟩ := h.roots s hs
  exact ⟨x, hb hx, hrange⟩

/-- One more symbol of the first statement, with the symbols of the statements inside it. -/
theorem Shows.cons {b body : Block} {x : Extent} {s : Symbol} {cs F : SymbolForest}
    (h : b.Shows d F) (hx : x ∈ b.extents) (hfirst : ∀ y ∈ b.extents, x.place.le y.place = true)
    (hs : x.range d = .ok s.range) (hcs : body.Shows d cs)
    (hbody : ∀ y ∈ body.extents, x.Encloses y) : b.Shows d (.cons s cs F) where
  roots := List.forall_mem_cons.mpr ⟨⟨x, hx, hs⟩, h.roots⟩
  preorder := by
    refine List.forall_mem_cons.mpr ⟨⟨x, hs⟩, fun t ht => ?_⟩
    rcases List.mem_append.mp ht with ht | ht
    · exact hcs.preorder t ht
    · exact h.preorder t ht
  sorted := by
    refine ⟨fun t ht => ?_, hcs.sorted, h.sorted⟩
    obtain ⟨y, hy, hrange⟩ := h.roots t ht
    rw [Extent.start_eq hs, Extent.start_eq hrange]
    exact hfirst y hy
  nested := by
    refine ⟨fun t ht => ?_, hcs.nested, h.nested⟩
    obtain ⟨y, hy, hrange⟩ := hcs.roots t ht
    exact (hbody y hy).contains hs hrange

/-- The names that the first statement assigns share its range. -/
theorem Shows.names {b : Block} {x : Extent} {own : List (Symbol × SymbolForest)} {F : SymbolForest}
    (h : b.Shows d F) (hx : x ∈ b.extents) (hfirst : ∀ y ∈ b.extents, x.place.le y.place = true)
    (hown : ∀ p ∈ own, x.range d = .ok p.1.range ∧ p.2 = .nil) : b.Shows d (.ofList own ++ F) := by
  induction own with
  | nil => exact h
  | cons p own ih =>
    obtain ⟨⟨hrange, hchildren⟩, hlater⟩ := List.forall_mem_cons.mp hown
    obtain ⟨s, cs⟩ := p
    cases hchildren
    exact (ih hlater).cons hx hfirst hrange shows_nil nofun

theorem shows_symbols {b : Block} (hb : b.Nested) {c : Container} {F : SymbolForest}
    (h : b.symbols d c = .ok F) : b.Shows d F := by
  have hfirst : ∀ {x : Extent} {rest : Block}, (∀ y ∈ rest.extents, x.place.le y.place = true) →
      ∀ y ∈ x :: rest.extents, x.place.le y.place = true := fun hx =>
    List.forall_mem_cons.mpr ⟨Position.le_refl _, hx⟩
  induction b generalizing c F with
  | nil =>
    cases h
    exact shows_nil
  | classDef name bases x body rest ihb ihr =>
    obtain ⟨hbody, hnested, hx, hr⟩ := hb
    obtain ⟨detail, r, children, siblings, -, hrange, hc, hs, rfl⟩ := symbols_classDef.mp h
    have hrest := (ihr hr hs).behind (b := .classDef name bases x body rest)
      (List.subset_cons_self ..)
    exact hrest.cons (List.mem_cons_self ..) (hfirst hx) hrange (ihb hnested hc) hbody
  | functionDef name params x body rest ihb ihr =>
    obtain ⟨hbody, hnested, hx, hr⟩ := hb
    obtain ⟨r, detail, children, siblings, hrange, -, hc, hs, rfl⟩ := symbols_functionDef.mp h
    have hrest := (ihr hr hs).behind (b := .functionDef name params x body rest)
      (List.subset_cons_self ..)
    exact hrest.cons (List.mem_cons_self ..) (hfirst hx) hrange (ihb hnested hc) hbody
  | assignment targets x rest ihr =>
    obtain ⟨hx, hr⟩ := hb
    obtain ⟨r, siblings, hrange, hs, rfl⟩ := symbols_assignment.mp h
    have hrest := (ihr hr hs).behind (b := .assignment targets x rest) (List.subset_cons_self ..)
    refine hrest.names (List.mem_cons_self ..) (hfirst hx) fun p hp => ?_
    obtain ⟨name, hname, rfl⟩ := List.mem_map.mp hp
    exact ⟨hrange (List.ne_nil_of_mem hname), rfl⟩
  | other x rest ihr =>
    obtain ⟨hx, hr⟩ := hb
    exact (ihr hr h).behind (List.subset_cons_self ..)

end Block

/-- A block whose statements end on lines of the document asks for no other line. -/
theorem symbols_ne_noSuchLine {d : Document} {b : Block} (hb : b.Nested)
    (hlines : ∀ x ∈ b.extents, x.lastLine < d.lineCount) (c : Container) (e : NoSuchLine) :
    b.symbols d c ≠ .error (.noSuchLine e) := by
  intro h
  cases fails_of_symbols hb h with
  | line hn hle =>
    obtain ⟨x, hx, rfl⟩ := mem_extents_of_mem_lastLines hn
    exact Nat.not_lt.mpr hle (hlines x hx)

/-! ## The symbols of a module -/

/-- **Ranges of symbols.** The symbols of every module are in order of start position on every
level, every symbol holds those directly below it, and every line of a symbol behind its first is
inside its range. If every carriage return stands directly before a line feed, no line is asked for
that the document does not have. -/
theorem symbols_nest (d : Document) :
    (∀ F, symbols d = .ok F → F.Sorted ∧ F.Nested ∧
      ∀ s ∈ F.preorder, ∀ n : Nat, s.range.start.line < n → n ≤ s.range.stop.line →
        ∃ line, d.lineAt n = .ok line ∧ s.range.contains line.range = true) ∧
    (ReturnsEndLines d.text → ∀ e, symbols d ≠ .error (.noSuchLine e)) := by
  constructor
  · intro F h
    unfold symbols at h
    split at h
    · cases h
    · rename_i b hread
      obtain ⟨words, g, -, -, hb⟩ := between_read hread
      have hshows := Block.shows_symbols hb.nested h
      refine ⟨hshows.sorted, hshows.nested, fun s hs n hstart hstop => ?_⟩
      obtain ⟨x, hx⟩ := hshows.preorder s hs
      exact Extent.contains_line hx hstart hstop
  · intro hreturns e
    unfold symbols
    split
    · exact nofun
    · rename_i b hread
      obtain ⟨words, g, -, -, hb⟩ := between_read hread
      have hcount : d.lineCount = d.text.count '\n' + 1 := by
        rw [Document.lineCount, Document.lines, List.length_map, Document.rawLines,
          Text.length_splitAtChar]
      have hlines := count_unifyModule_le hreturns
      refine symbols_ne_noSuchLine hb.nested (fun x hx => ?_) _ e
      have hx := lastLine_lt_of_read hread x hx
      omega

/-- The sample outline is that of its document; the line of the body of its method is inside the
range of the class. -/
theorem symbols_nest_sample :
    Search.sampleForest.Sorted ∧ Search.sampleForest.Nested ∧
      ∃ line, Search.sampleDocument.lineAt 3 = .ok line ∧
        (Range.ofCoords 0 0 3 21).contains line.range = true := by
  have h : symbols Search.sampleDocument = .ok Search.sampleForest :=
    toOption_eq_some.mp (by decide +kernel)
  obtain ⟨hsorted, hnested, hlines⟩ := (symbols_nest Search.sampleDocument).1 _ h
  exact ⟨hsorted, hnested, hlines _ (List.mem_cons_self ..) 3 (by decide) (by decide)⟩

end Outline.Source
