import Outline.Proofs.Document.Words
import Outline.Proofs.Text.Occurrence
import Outline.Search.Position

/-!
# The line of a name

The line of an offset is the number of line feeds in front of it (`line_positionAt`). A symbol
counts as standing on the line on which its name first occurs in its range, which is a line of the
range, and what is highlighted starts on that line; a symbol whose name does not occur stands where
its range starts (`name_line_in_range`).
-/
namespace Outline.Document

variable {d : Document}

/-- In front of a character of a line stand the line feeds of the earlier lines. -/
theorem count_take_lineStart {raws : List Text} (hraws : ∀ raw ∈ raws, '\n' ∉ raw) {n : Nat}
    {raw : Text} (h : raws[n]? = some raw) {c : Nat} (hc : c ≤ raw.length) :
    ((Text.join ['\n'] raws).take (lineStart raws n + c)).count '\n' = n := by
  induction raws generalizing n with
  | nil => simp at h
  | cons first rest ih =>
    obtain ⟨hfirst, hrest⟩ := List.forall_mem_cons.mp hraws
    have hnone : ∀ k, (first.take k).count '\n' = 0 := fun k =>
      List.count_eq_zero.mpr fun hmem => hfirst (List.mem_of_mem_take hmem)
    cases n with
    | zero =>
      obtain rfl : first = raw := by simpa using h
      have hfront : first <+: Text.join ['\n'] (first :: rest) := by
        cases rest with
        | nil => exact List.prefix_refl first
        | cons second rest =>
          rw [Text.join_cons (List.cons_ne_nil _ _), List.append_assoc]
          exact List.prefix_append _ _
      obtain ⟨tail, htail⟩ := hfront
      rw [← htail, List.take_append_of_le_length (by simpa [lineStart] using hc)]
      exact hnone _
    | succ n =>
      have hne : rest ≠ [] := by rintro rfl; simp at h
      have hstart : lineStart (first :: rest) (n + 1) + c =
          (first ++ ['\n']).length + (lineStart rest n + c) := by
        simp [lineStart]; omega
      rw [Text.join_cons hne, hstart, List.take_length_add_append, List.count_append,
        List.count_append, ih hrest h, List.count_singleton_self, List.count_eq_zero.mpr hfirst]
      omega

/-- The line of an offset is the number of line feeds in front of it. -/
theorem line_positionAt {offset : Nat} (h : offset ≤ d.text.length) :
    (d.positionAt offset).line = (d.text.take offset).count '\n' := by
  obtain ⟨n, raw, c, hraw, hc, ho, hp⟩ := d.exists_line offset
  have hfree : ∀ raw ∈ d.rawLines, '\n' ∉ raw := fun _ => Text.not_mem_of_mem_splitAtChar
  have hcount := count_take_lineStart hfree hraw hc
  rw [Int.toNat_natCast, Nat.min_eq_left h] at ho
  rw [join_rawLines, ← ho] at hcount
  rw [hp, hcount]

/-! ## The line of a symbol -/

section

variable {s : Symbol} {i : Nat}

theorem namePosition_of_find? (h : Text.find? s.name (d.textIn s.range) = some i) :
    d.namePosition s = some ((d.positionAt (d.offsetAt s.range.start + i : Nat)).right 1) := by
  rw [namePosition, h, Option.map_some]

theorem namePosition_of_not_find? (h : Text.find? s.name (d.textIn s.range) = none) :
    d.namePosition s = none := by
  rw [namePosition, h, Option.map_none]

theorem effectiveLine_of_find? (h : Text.find? s.name (d.textIn s.range) = some i) (f : Flags) :
    d.effectiveLine (.symbol s f) = (d.positionAt (d.offsetAt s.range.start + i : Nat)).line := by
  simp [effectiveLine, namePosition_of_find? h, Position.right]

/-- What is highlighted starts on the line on which the symbol counts as standing. -/
theorem line_nameRange (d : Document) (s : Symbol) (f : Flags) :
    (d.nameRange (.symbol s f)).start.line = d.effectiveLine (.symbol s f) := by
  cases hposition : d.namePosition s with
  | none => simp [nameRange, effectiveLine, hposition, Range.empty, Symbol.startLine]
  | some p =>
    cases hword : d.wordAt p with
    | none => simp [nameRange, effectiveLine, hposition, hword, Position.left]
    | some r =>
      obtain ⟨text, start, stop, -, -, -, -, rfl⟩ := wordAt_eq_some.mp hword
      simp [nameRange, effectiveLine, hposition, hword, Range.ofCoords]

/-- What occurs in a range and is not empty begins in front of the end of the range. -/
theorem offsetAt_add_lt (h : Text.find? s.name (d.textIn s.range) = some i) (hne : s.name ≠ []) :
    d.offsetAt s.range.start + i < d.offsetAt s.range.stop := by
  have hlen := Text.add_length_le_of_find? h
  have hpos := List.length_pos_iff.mpr hne
  have hslice : (d.textIn s.range).length ≤ d.offsetAt s.range.stop - d.offsetAt s.range.start := by
    unfold textIn Text.slice
    rw [List.length_drop, List.length_take]
    omega
  omega

end

theorem offsetAt_le_length {p : Position} (h : d.Holds p) : d.offsetAt p ≤ d.text.length := by
  obtain ⟨raw, hraw, hc⟩ := holds_iff.mp h
  rw [offsetAt_of_line hraw]
  exact lineStart_add_le hraw (Nat.le_trans (Nat.min_le_right _ _) (length_dropReturn_le raw))

theorem le_positionAt {p : Position} (h : d.Holds p) {offset : Int} (ho : d.offsetAt p ≤ offset) :
    p.le (d.positionAt offset) = true := by
  have hmono := d.positionAt_mono ho
  rwa [positionAt_offsetAt h] at hmono

theorem positionAt_le {p : Position} (h : d.Holds p) {offset : Int} (ho : offset ≤ d.offsetAt p) :
    (d.positionAt offset).le p = true := by
  have hmono := d.positionAt_mono ho
  rwa [positionAt_offsetAt h] at hmono

/-- **The line of a name.** If the name of a symbol occurs in its range, the symbol stands on the
line of the first character of its first occurrence: there are as many line feeds in front of that
character. The line is one of the range, and what is highlighted starts on it. If the name does not
occur, the symbol stands on the line where its range starts, and nothing is highlighted there. -/
theorem name_line_in_range (d : Document) (s : Symbol) (f : Flags) (hstart : d.Holds s.range.start)
    (hstop : d.Holds s.range.stop) (hne : s.name ≠ []) :
    let text := d.textIn s.range
    let line := d.effectiveLine (.symbol s f)
    (s.name <:+: text → ∃ i, Text.OccursFirst s.name text i ∧
      line = (d.text.take (d.offsetAt s.range.start + i)).count '\n' ∧
      s.range.start.line ≤ line ∧ line ≤ s.range.stop.line ∧
      (d.nameRange (.symbol s f)).start.line = line) ∧
    (¬s.name <:+: text →
      line = s.range.start.line ∧ d.nameRange (.symbol s f) = .empty s.range.start) := by
  intro text line
  cases hfind : Text.find? s.name text with
  | none =>
    have hnone := namePosition_of_not_find? hfind
    refine ⟨fun h => absurd h (Text.not_infix_of_find? hfind), fun _ => ⟨?_, ?_⟩⟩
    · simp [line, effectiveLine, hnone, Symbol.startLine]
    · simp [nameRange, hnone]
  | some i =>
    have hfirst := Text.occursFirst_of_find? hfind
    refine ⟨fun _ => ⟨i, hfirst, ?_⟩, fun h => absurd hfirst.occurs h⟩
    have hline : line = (d.positionAt (d.offsetAt s.range.start + i : Nat)).line :=
      effectiveLine_of_find? hfind f
    have hlt := offsetAt_add_lt hfind hne
    have hle := offsetAt_le_length hstop
    -- the character lies between the ends of the range, so its line does
    have hfront : s.range.start.le (d.positionAt (d.offsetAt s.range.start + i : Nat)) = true :=
      le_positionAt hstart (by omega)
    have hbehind : (d.positionAt (d.offsetAt s.range.start + i : Nat)).le s.range.stop = true :=
      positionAt_le hstop (by omega)
    rw [hline]
    refine ⟨line_positionAt (by omega), Position.line_le_of_le hfront,
      Position.line_le_of_le hbehind, ?_⟩
    rw [line_nameRange, ← hline]

/-- The name of a decorated function stands on the second line of its range. -/
theorem name_line_in_range_sample :
    let d : Document := { text := "@f\r\ndef g():\r\n    pass".toList }
    let s : Symbol := ⟨['g'], .function, .ofCoords 0 0 2 8, none, 0⟩
    (d.Holds s.range.start ∧ d.Holds s.range.stop ∧ s.name ≠ []) ∧
      s.name <:+: d.textIn s.range ∧
      ∃ i, Text.OccursFirst s.name (d.textIn s.range) i ∧
        d.effectiveLine (.symbol s {}) =
          (d.text.take (d.offsetAt s.range.start + i)).count '\n' ∧
        s.range.start.line ≤ d.effectiveLine (.symbol s {}) ∧
        d.effectiveLine (.symbol s {}) ≤ s.range.stop.line ∧
        (d.nameRange (.symbol s {})).start.line = d.effectiveLine (.symbol s {}) := by
  intro d s
  have hstart : d.Holds s.range.start := ⟨_, rfl, by decide +kernel⟩
  have hstop : d.Holds s.range.stop := ⟨_, rfl, by decide +kernel⟩
  have hne : s.name ≠ [] := by decide
  have hin : s.name <:+: d.textIn s.range :=
    ⟨"@f\r\ndef ".toList, "():\r\n    pass".toList, by decide +kernel⟩
  exact ⟨⟨hstart, hstop, hne⟩, hin, (name_line_in_range d s {} hstart hstop hne).1 hin⟩

end Outline.Document
