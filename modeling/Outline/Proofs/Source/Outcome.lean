import Outline.Proofs.Document.Offsets
import Outline.Proofs.Search.Apply
import Outline.Proofs.Source.Headings
import Outline.Proofs.Source.Lines

/-!
# When a module gives symbols

A module that can be read gives symbols unless one of two things happens: a statement that is shown
at the top ends on a line that the document does not have, or something that is to be written out as
a detail cannot be (`fails_of_symbols`, `lines_of_symbols`). The lines of a document end at line
feeds alone, those of a module at carriage returns too, so the first happens where a carriage return
stands alone (`symbols_astray`); it does not where every one stands before a line feed. The lines of
the symbols that are given are lines of the document (`symbols_outcome`).
-/
namespace Outline.Source

/-- The last lines of the classes, functions and shown assignments directly in a block. -/
def Block.lastLines (c : Container) : Block → List Nat
  | nil => []
  | classDef _ _ x _ rest | functionDef _ _ x _ rest => x.lastLine :: rest.lastLines c
  | assignment targets x rest =>
    if c.shownNames targets = [] then rest.lastLines c else x.lastLine :: rest.lastLines c
  | other _ rest => rest.lastLines c

/-- Whether the bases of all classes and the parameters of all functions can be written. -/
def Block.Writable : Block → Prop
  | nil => True
  | classDef _ bases _ body rest =>
    (∀ e ∈ bases, ∃ t, e.print = .ok t) ∧ body.Writable ∧ rest.Writable
  | functionDef _ params _ body rest =>
    (∃ t, Expr.printParameters params = .ok t) ∧ body.Writable ∧ rest.Writable
  | assignment _ _ rest | other _ rest => rest.Writable

/-- Why a block that stands in a container gives no symbols: a statement that is shown ends on a
line that the document does not have, or something cannot be written. -/
inductive Block.Fails (d : Document) (c : Container) (b : Block) : Fault → Prop
  | line {n : Nat} (hn : n ∈ b.lastLines c) (h : d.lineCount ≤ n) :
    Fails d c b (.noSuchLine ⟨n, d.lineCount - 1⟩)
  | detail {cause : Unwritable} (h : ¬b.Writable) : Fails d c b (.unwritable cause)

section

variable {d : Document} {c : Container}

/-! ## Ranges and details -/

theorem lt_of_range {x : Extent} {r : Range} (h : x.range d = .ok r) :
    x.lastLine < d.lineCount ∧ r.start.line = x.line ∧ r.stop.line = x.lastLine := by
  obtain ⟨text, htext, rfl⟩ := Extent.range_eq_ok h
  exact ⟨(List.getElem?_eq_some_iff.mp htext).1, rfl, rfl⟩

theorem range_eq_error {x : Extent} {e : Fault} (h : x.range d = .error e) :
    d.lineCount ≤ x.lastLine ∧ e = .noSuchLine ⟨x.lastLine, d.lineCount - 1⟩ := by
  by_cases hlt : x.lastLine < d.lineCount
  · obtain ⟨raw, -, hline⟩ := Document.lineAt_of_lt hlt
    unfold Extent.range at h
    rw [hline] at h
    cases h
  · have hnone : d.lines[x.lastLine]? = none := List.getElem?_eq_none (Nat.le_of_not_lt hlt)
    have hline : d.lineAt x.lastLine = .error ⟨x.lastLine, d.lineCount - 1⟩ := by
      rw [Document.lineAt, if_neg (by omega), Int.toNat_natCast, hnone]
    unfold Extent.range at h
    rw [hline] at h
    cases h
    exact ⟨Nat.le_of_not_lt hlt, rfl⟩

theorem written_eq_ok {α : Type} {r : Except Unwritable α} {a : α} (h : written r = .ok a) :
    r = .ok a := by
  cases r with
  | ok => cases h; rfl
  | error => cases h

theorem written_eq_error {α : Type} {r : Except Unwritable α} {e : Fault}
    (h : written r = .error e) : ∃ cause, r = .error cause ∧ e = .unwritable cause := by
  cases r with
  | ok => cases h
  | error cause => cases h; exact ⟨cause, rfl, rfl⟩

theorem basesDetail_eq_ok {bases : List Expr} {detail : Option Text}
    (h : Block.basesDetail bases = .ok detail) : ∀ e ∈ bases, ∃ t, e.print = .ok t := by
  obtain ⟨texts, htexts, -⟩ := bind_eq_ok.mp h
  intro e he
  obtain ⟨t, ht⟩ := exists_of_mapM_ok htexts e he
  exact ⟨t, written_eq_ok ht⟩

theorem basesDetail_eq_error {bases : List Expr} {e : Fault}
    (h : Block.basesDetail bases = .error e) :
    ∃ b ∈ bases, ∃ cause, b.print = .error cause ∧ e = .unwritable cause := by
  rcases bind_eq_error.mp h with h | ⟨texts, -, h⟩
  · obtain ⟨b, hb, h⟩ := exists_of_mapM_error h
    obtain ⟨cause, hcause, he⟩ := written_eq_error h
    exact ⟨b, hb, cause, hcause, he⟩
  · cases h

/-! ## Blocks -/

theorem mem_extents_of_mem_lastLines {b : Block} {n : Nat} (h : n ∈ b.lastLines c) :
    ∃ x ∈ b.extents, x.lastLine = n := by
  induction b with
  | nil => cases h
  | classDef _ _ x _ rest _ ihr | functionDef _ _ x _ rest _ ihr =>
    rcases List.mem_cons.mp h with rfl | h
    · exact ⟨x, List.mem_cons_self .., rfl⟩
    · obtain ⟨y, hy, hn⟩ := ihr h
      exact ⟨y, List.mem_cons_of_mem _ hy, hn⟩
  | assignment targets x rest ihr =>
    have hrest : n ∈ rest.lastLines c → ∃ y ∈ (Block.assignment targets x rest).extents,
        y.lastLine = n := by
      intro h
      obtain ⟨y, hy, hn⟩ := ihr h
      exact ⟨y, List.mem_cons_of_mem _ hy, hn⟩
    rw [Block.lastLines] at h
    split at h
    · exact hrest h
    · rcases List.mem_cons.mp h with rfl | h
      · exact ⟨x, List.mem_cons_self .., rfl⟩
      · exact hrest h
  | other x rest ihr =>
    obtain ⟨y, hy, hn⟩ := ihr h
    exact ⟨y, List.mem_cons_of_mem _ hy, hn⟩

/-- A block that gives symbols has its shown statements on lines of the document, and everything in
it can be written. -/
theorem lines_of_symbols {b : Block} {F : SymbolForest} (h : b.symbols d c = .ok F) :
    (∀ n ∈ b.lastLines c, n < d.lineCount) ∧ b.Writable := by
  induction b generalizing c F with
  | nil => exact ⟨nofun, trivial⟩
  | classDef name bases x body rest ihb ihr =>
    obtain ⟨detail, r, children, siblings, hdetail, hr, hchildren, hsiblings, -⟩ :=
      Block.symbols_classDef.mp h
    obtain ⟨hlines, hrest⟩ := ihr hsiblings
    exact ⟨List.forall_mem_cons.mpr ⟨(lt_of_range hr).1, hlines⟩, basesDetail_eq_ok hdetail,
      (ihb hchildren).2, hrest⟩
  | functionDef name params x body rest ihb ihr =>
    obtain ⟨r, detail, children, siblings, hr, hdetail, hchildren, hsiblings, -⟩ :=
      Block.symbols_functionDef.mp h
    obtain ⟨hlines, hrest⟩ := ihr hsiblings
    exact ⟨List.forall_mem_cons.mpr ⟨(lt_of_range hr).1, hlines⟩, ⟨detail, written_eq_ok hdetail⟩,
      (ihb hchildren).2, hrest⟩
  | assignment targets x rest ihr =>
    obtain ⟨r, siblings, hr, hsiblings, -⟩ := Block.symbols_assignment.mp h
    obtain ⟨hlines, hrest⟩ := ihr hsiblings
    refine ⟨?_, hrest⟩
    rw [Block.lastLines]
    split
    · exact hlines
    · rename_i hshown
      exact List.forall_mem_cons.mpr ⟨(lt_of_range (hr hshown)).1, hlines⟩
  | other x rest ihr => exact ihr h

theorem Block.Fails.of_rest {b rest : Block} {e : Fault} (h : rest.Fails d c e)
    (hlines : rest.lastLines c ⊆ b.lastLines c) (hw : b.Writable → rest.Writable) :
    b.Fails d c e := by
  cases h with
  | line hn hle => exact .line (hlines hn) hle
  | detail hno => exact .detail fun h => hno (hw h)

/-- A body that lies inside a statement of the document has all its lines in the document. -/
theorem Block.Fails.of_body {b body : Block} {c' : Container} {x : Extent} {r : Range} {e : Fault}
    (h : body.Fails d c' e) (hr : x.range d = .ok r) (hbody : ∀ y ∈ body.extents, x.Encloses y)
    (hw : b.Writable → body.Writable) : b.Fails d c e := by
  cases h with
  | line hn hle =>
    obtain ⟨y, hy, rfl⟩ := mem_extents_of_mem_lastLines hn
    have hends := (hbody y hy).ends
    have hlt := (lt_of_range hr).1
    omega
  | detail hno => exact .detail fun h => hno (hw h)

theorem Block.Fails.of_range {b : Block} {x : Extent} {e : Fault} (h : x.range d = .error e)
    (hx : x.lastLine ∈ b.lastLines c) : b.Fails d c e := by
  obtain ⟨hle, rfl⟩ := range_eq_error h
  exact .line hx hle

theorem Block.Fails.of_bases {name : Text} {bases : List Expr} {x : Extent} {body rest : Block}
    {e : Fault} (h : basesDetail bases = .error e) :
    (classDef name bases x body rest).Fails d c e := by
  obtain ⟨base, hbase, cause, hcause, rfl⟩ := basesDetail_eq_error h
  refine .detail fun hw => ?_
  obtain ⟨t, ht⟩ := hw.1 base hbase
  rw [hcause] at ht
  cases ht

theorem Block.Fails.of_parameters {name : Text} {params : List Parameter} {x : Extent}
    {body rest : Block} {e : Fault} (h : written (Expr.printParameters params) = .error e) :
    (functionDef name params x body rest).Fails d c e := by
  obtain ⟨cause, hcause, rfl⟩ := written_eq_error h
  refine .detail fun hw => ?_
  obtain ⟨t, ht⟩ := hw.1
  rw [hcause] at ht
  cases ht

theorem fails_of_symbols {b : Block} (hb : b.Nested) {e : Fault} (h : b.symbols d c = .error e) :
    b.Fails d c e := by
  induction b generalizing c with
  | nil => cases h
  | classDef name bases x body rest ihb ihr =>
    obtain ⟨hbody, hnested, -, hr⟩ := hb
    rcases bind_eq_error.mp h with h | ⟨detail, -, h⟩
    · exact .of_bases h
    rcases bind_eq_error.mp h with h | ⟨r, hrange, h⟩
    · exact .of_range h (List.mem_cons_self ..)
    rcases bind_eq_error.mp h with h | ⟨children, -, h⟩
    · exact (ihb hnested h).of_body hrange hbody fun hw => hw.2.1
    rcases bind_eq_error.mp h with h | ⟨siblings, -, h⟩
    · exact (ihr hr h).of_rest (List.subset_cons_self ..) fun hw => hw.2.2
    · cases h
  | functionDef name params x body rest ihb ihr =>
    obtain ⟨hbody, hnested, -, hr⟩ := hb
    rcases bind_eq_error.mp h with h | ⟨r, hrange, h⟩
    · exact .of_range h (List.mem_cons_self ..)
    rcases bind_eq_error.mp h with h | ⟨detail, -, h⟩
    · exact .of_parameters h
    rcases bind_eq_error.mp h with h | ⟨children, -, h⟩
    · exact (ihb hnested h).of_body hrange hbody fun hw => hw.2.1
    rcases bind_eq_error.mp h with h | ⟨siblings, -, h⟩
    · exact (ihr hr h).of_rest (List.subset_cons_self ..) fun hw => hw.2.2
    · cases h
  | assignment targets x rest ihr =>
    obtain ⟨-, hr⟩ := hb
    rcases bind_eq_error.mp h with h | ⟨own, -, h⟩
    · obtain ⟨name, hname, h⟩ := exists_of_mapM_error h
      have hshown : c.shownNames targets ≠ [] := List.ne_nil_of_mem hname
      rcases bind_eq_error.mp h with h | ⟨r, -, h⟩
      · refine .of_range h ?_
        rw [Block.lastLines, if_neg hshown]
        exact List.mem_cons_self ..
      · cases h
    rcases bind_eq_error.mp h with h | ⟨siblings, -, h⟩
    · refine (ihr hr h).of_rest ?_ fun hw => hw
      rw [Block.lastLines]
      split
      · exact List.Subset.refl _
      · exact List.subset_cons_self ..
    · cases h
  | other x rest ihr => exact (ihr hb.2 h).of_rest (List.Subset.refl _) fun hw => hw

end

/-! ## Modules -/

theorem line_le_of_lex {t : Text} {words : List Word} (h : lex t = some words) :
    ∀ w ∈ words, w.lexeme.isVisible = true → w.line ≤ w.lastLine := by
  intro w hw hv
  obtain ⟨l₁, l₂, -, -, hword⟩ := (Lexer.runs_run h).exists_word (P := fun _ => True)
    (fun _ h => h) (fun _ h => h) trivial w hw hv
  have hcuts := Lexer.cuts_word hword
  have hline : w.line = l₁.line := congrArg Position.line hcuts.starts
  rw [hline]
  exact hcuts.onward

/-- The statement of a symbol does not end before the line on which it starts. -/
theorem line_le_of_read {t : Text} {b : Block} (h : Block.read t = .ok b) :
    ∀ p ∈ b.declarations, p.extent.line ≤ p.extent.lastLine := by
  obtain ⟨words, hlex, hwords⟩ := exists_word_of_read h
  intro p hp
  obtain ⟨w, hw, -, hbegins⟩ := hwords p hp
  have hle := line_le_of_lex hlex w hw hbegins.visible
  have hline := hbegins.line
  have hlast := hbegins.lastLine
  omega

theorem lineCount_eq (d : Document) : d.lineCount = d.text.count '\n' + 1 := by
  rw [Document.lineCount, Document.lines, List.length_map, Document.rawLines,
    Text.length_splitAtChar]

/-- **Outcomes of a module.** A text that is no module fails as reading it does. A module gives
symbols exactly if the statements shown at its top end on lines of the document and all details can
be written, and fails in no other way; if every carriage return stands directly before a line feed,
no statement ends outside the document. Every symbol starts and ends on a line of the document.

Expressions are read and written out to any depth of nesting here, so this says nothing of modules
that fail because a limit on recursion is reached; and every character that a string gives by a
well-formed name is taken to exist, so it says nothing of those that fail because there is none. -/
theorem symbols_outcome (d : Document) :
    (∀ cause, Block.read d.text = .error cause → symbols d = .error (.malformed cause)) ∧
    ∀ b, Block.read d.text = .ok b →
      ((∃ F, symbols d = .ok F) ↔ (∀ n ∈ b.lastLines .module, n < d.lineCount) ∧ b.Writable) ∧
      (∀ e, symbols d = .error e → b.Fails d .module e) ∧
      (ReturnsEndLines d.text → ∀ n ∈ b.lastLines .module, n < d.lineCount) ∧
      ∀ F, symbols d = .ok F → ∀ s ∈ F.preorder,
        s.range.start.line < d.lineCount ∧ s.range.stop.line < d.lineCount := by
  refine ⟨fun cause h => by unfold symbols; rw [h], fun b hread => ?_⟩
  obtain ⟨words, g, -, -, hb⟩ := between_read hread
  have heq : symbols d = b.symbols d .module := by
    unfold symbols
    rw [hread]
  have hfails : ∀ e, symbols d = .error e → b.Fails d .module e := by
    intro e h
    rw [heq] at h
    exact fails_of_symbols hb.nested h
  refine ⟨⟨?_, ?_⟩, hfails, ?_, ?_⟩
  · rintro ⟨F, h⟩
    rw [heq] at h
    exact lines_of_symbols h
  · rintro ⟨hlines, hw⟩
    cases h : symbols d with
    | ok F => exact ⟨F, rfl⟩
    | error e =>
      cases hfails e h with
      | line hn hle =>
        have hlt := hlines _ hn
        omega
      | detail hno => exact absurd hw hno
  · intro hreturns n hn
    obtain ⟨x, hx, rfl⟩ := mem_extents_of_mem_lastLines hn
    have hlast := lastLine_lt_of_read hread x hx
    have hcount := count_unifyModule_le hreturns
    rw [lineCount_eq]
    omega
  · intro F h s hs
    rw [heq] at h
    obtain ⟨p, hp, hshows⟩ := exists_declaration h s hs
    obtain ⟨hlast, hstart, hstop⟩ := lt_of_range hshows.range
    have hle := line_le_of_read hread p hp
    omega

/-- The statements of the sample module end on its lines, and its details can be written. -/
theorem symbols_outcome_sample :
    ∃ b, Block.read Search.sampleDocument.text = .ok b ∧
      (∀ n ∈ b.lastLines .module, n < Search.sampleDocument.lineCount) ∧ b.Writable := by
  have h : symbols Search.sampleDocument = .ok Search.sampleForest :=
    toOption_eq_some.mp (by decide +kernel)
  cases hread : Block.read Search.sampleDocument.text with
  | error cause =>
    rw [(symbols_outcome Search.sampleDocument).1 cause hread] at h
    cases h
  | ok b =>
    exact ⟨b, rfl, ((symbols_outcome Search.sampleDocument).2 b hread).1.mp ⟨_, h⟩⟩

/-- A carriage return that stands alone ends a line of the module and none of the document: the
module of two assignments, one on either side of it, asks for the second line of a document of one.
-/
theorem symbols_astray :
    let d : Document := { text := "x = 1\ry = 2".toList }
    (Block.read d.text).isOk = true ∧ symbols d = .error (.noSuchLine ⟨1, 0⟩) := by
  exact ⟨by decide +kernel, by decide +kernel⟩

end Outline.Source
