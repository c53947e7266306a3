import Outline.Proofs.Document.Offsets

/-!
# The order of offsets

The offset of a position behind the end of its line is that of the end, and the offset of a position
behind the last line is that of the same character on the last line (`exists_clamped`). So positions
in order have offsets in order, and of two ranges the one inside the other has the smaller text, but
for one case: from a position on the last line, or behind it, to an earlier character of a later
line the offset goes back (`FallsBack`, `offsets_in_order`). The start of the line behind the last
one counts as the start of the last line, not as the end of the text (`offsets_astray`).
-/
namespace Outline

/-- What stands between two indices is part of what stands between two that are no closer. -/
theorem Text.slice_infix_slice {t : Text} {start stop start' stop' : Nat} (hstart : start' ≤ start)
    (hstop : stop ≤ stop') : t.slice start stop <:+: t.slice start' stop' := by
  have hfront : t.slice start stop <:+ t.slice start' stop := List.drop_suffix_drop_left _ hstart
  have hbehind : t.slice start' stop <+: t.slice start' stop' := by
    unfold slice
    rw [List.drop_take, List.drop_take]
    exact List.take_prefix_take_left (by omega)
  exact hfront.isInfix.trans hbehind.isInfix

namespace Document

variable {d : Document} {p q : Position}

def lastLine (d : Document) : Text := d.lines.getLastD []

/-- Two positions in order whose offsets are not: the second stands behind the last line, on a later
line than the first, and would stand on the last line in front of the first. -/
structure FallsBack (d : Document) (p q : Position) : Prop where
  lines : p.line < q.line
  last : d.lineCount ≤ p.line + 1
  back : q.character < p.character
  within : q.character < d.lastLine.length

theorem lineCount_eq_length (d : Document) : d.lineCount = d.rawLines.length := by
  simp [lineCount, Document.lines]

theorem lastLine_of_line {n : Nat} {raw : Text} (h : d.rawLines[n]? = some raw)
    (hn : d.rawLines.length ≤ n + 1) : d.lastLine = dropReturn raw := by
  have hlt : n < d.rawLines.length := (List.getElem?_eq_some_iff.mp h).1
  have hlast : d.lines.getLast? = some (dropReturn raw) := by
    rw [List.getLast?_eq_getElem?, ← lineCount, lineCount_eq_length,
      show d.rawLines.length - 1 = n by omega, lines_getElem? h]
  rw [lastLine, List.getLastD_eq_getLast?, hlast, Option.getD_some]

/-- The offset of a position is that of a character of a line of the document. -/
theorem exists_clamped (d : Document) (p : Position) :
    ∃ n raw, n = min p.line (d.rawLines.length - 1) ∧ d.rawLines[n]? = some raw ∧
      d.offsetAt p = lineStart d.rawLines n + min p.character (dropReturn raw).length := by
  have hpos := List.length_pos_iff.mpr d.rawLines_ne_nil
  have hlt : min p.line (d.rawLines.length - 1) < d.rawLines.length := by omega
  have hraw := List.getElem?_eq_getElem hlt
  refine ⟨_, _, rfl, hraw, ?_⟩
  unfold offsetAt
  simp [hraw]

/-- Of two positions in order the first has the greater offset only where that falls back. -/
theorem offsetAt_le_iff (h : p.le q = true) :
    d.offsetAt p ≤ d.offsetAt q ↔ ¬d.FallsBack p q := by
  obtain ⟨n, raw, hn, hraw, hp⟩ := d.exists_clamped p
  obtain ⟨m, raw', hm, hraw', hq⟩ := d.exists_clamped q
  have hlines := Position.line_le_of_le h
  have hcount := d.lineCount_eq_length
  rw [Position.le_iff] at h
  rw [hp, hq]
  by_cases hnm : n < m
  · -- the first line is not the last one, and ends in front of the second
    have hstart := lineStart_of_lt hraw hnm (List.getElem?_eq_some_iff.mp hraw').1
    have hwidth := length_dropReturn_le raw
    refine iff_of_true (by omega) fun hback => ?_
    have hlast := hback.last
    omega
  · obtain rfl : n = m := by omega
    obtain rfl : raw = raw' := Option.some.inj (hraw.symm.trans hraw')
    by_cases hline : p.line = q.line
    · refine iff_of_true (by omega) fun hback => ?_
      have hlt := hback.lines
      omega
    · -- both positions are taken to the last line
      have hlast := lastLine_of_line hraw (by omega)
      constructor
      · intro hle hback
        have hback' := hback.back
        have hwithin := hback.within
        rw [hlast] at hwithin
        omega
      · intro hback
        by_contra hlt
        exact hback ⟨by omega, by omega, by omega, by rw [hlast]; omega⟩

/-- **The order of offsets.** Of two positions in order the second has no smaller offset, unless it
falls back behind the last line. So the text of a range is part of the text of every range around
it of which no end falls back. -/
theorem offsets_in_order (d : Document) :
    (∀ p q, p.le q = true → (d.offsetAt p ≤ d.offsetAt q ↔ ¬d.FallsBack p q)) ∧
    ∀ inner outer : Range, outer.contains inner = true → ¬d.FallsBack outer.start inner.start →
      ¬d.FallsBack inner.stop outer.stop → d.textIn inner <:+: d.textIn outer := by
  refine ⟨fun p q h => offsetAt_le_iff h, fun inner outer h hstart hstop => ?_⟩
  obtain ⟨hfront, hbehind⟩ := Range.contains_iff.mp h
  have hfront' := (offsetAt_le_iff hfront).mpr hstart
  have hbehind' := (offsetAt_le_iff hbehind).mpr hstop
  exact Text.slice_infix_slice hfront' hbehind'

/-- Positions behind the ends of lines and of the document, the last of them not in front of the end
of the last line. -/
theorem offsets_in_order_sample :
    let d : Document := { text := "abc\r\nde".toList }
    d.offsetAt ⟨0, 9⟩ ≤ d.offsetAt ⟨1, 0⟩ ∧ d.offsetAt ⟨1, 1⟩ ≤ d.offsetAt ⟨7, 2⟩ ∧
      d.textIn (.ofCoords 0 1 1 1) <:+: d.textIn (.ofCoords 0 0 7 2) := by
  intro d
  obtain ⟨hoffsets, htexts⟩ := offsets_in_order d
  refine ⟨(hoffsets _ _ (by decide)).mpr fun h => ?_, (hoffsets _ _ (by decide)).mpr fun h => ?_,
    htexts _ _ (by decide) (fun h => ?_) fun h => ?_⟩
  · exact absurd h.last (by decide)
  · exact absurd h.back (by decide)
  · exact absurd h.back (by decide)
  · exact absurd h.back (by decide)

/-- The start of the line behind the last one is behind all of the text, but its offset is that of
the start of the last line, and a range up to it has less text than one up to the end. -/
theorem offsets_astray :
    let d : Document := { text := "abc".toList }
    (Position.le ⟨0, 3⟩ ⟨1, 0⟩ = true ∧ ¬d.offsetAt ⟨0, 3⟩ ≤ d.offsetAt ⟨1, 0⟩) ∧
      (Range.ofCoords 0 0 1 0).contains (.ofCoords 0 0 0 3) = true ∧
      d.textIn (.ofCoords 0 0 0 3) = "abc".toList ∧ d.textIn (.ofCoords 0 0 1 0) = [] := by
  decide

end Document

end Outline
