import Outline.Proofs.Search.Apply
import Outline.Proofs.Search.NameLine

/-!
# The name that is highlighted

The name of a symbol is looked for in the symbol's range as any other text, so what is found need
not be a word: the `f` in `def f` is found in `def` first. What is highlighted is the word of the
document around the first occurrence, and so it is the name exactly if that occurrence is a word
(`name_highlighted_iff`).
-/
namespace Outline

namespace Text

variable {t u : Text}

theorem getElem?_slice (t : Text) (start stop i : Nat) :
    (t.slice start stop)[i]? = if start + i < stop then t[start + i]? else none := by
  rw [slice, List.getElem?_drop, List.getElem?_take]

theorem length_slice {start stop : Nat} (h : stop ≤ t.length) :
    (t.slice start stop).length = stop - start := by
  rw [slice, List.length_drop, List.length_take, Nat.min_eq_left h]

/-- A text that stands somewhere is what is cut out there. -/
theorem slice_eq_of_getElem? {start : Nat} (h : ∀ i, i < u.length → t[start + i]? = u[i]?) :
    t.slice start (start + u.length) = u := by
  refine List.ext_getElem? fun i => ?_
  rw [getElem?_slice]
  split
  · exact h i (by omega)
  · exact (List.getElem?_eq_none (by omega)).symm

end Text

namespace Document

variable {d : Document}

/-- What occurs in a range stands in the text there. -/
theorem getElem?_of_find? {name : Text} {r : Range} {i : Nat}
    (h : Text.find? name (d.textIn r) = some i) {k : Nat} (hk : k < name.length) :
    d.text[d.offsetAt r.start + i + k]? = name[k]? := by
  obtain ⟨before, after, hcut, rfl⟩ := Text.exists_cut_of_find? h
  have hat : (d.textIn r)[before.length + k]? = name[k]? := by
    rw [hcut, List.append_assoc, List.getElem?_append_right (Nat.le_add_right _ _),
      Nat.add_sub_cancel_left, List.getElem?_append_left hk]
  rw [textIn, Text.getElem?_slice] at hat
  split at hat
  · rwa [Nat.add_assoc]
  · rw [List.getElem?_eq_getElem hk] at hat
    cases hat

/-- Nothing is highlighted if the name does not occur. -/
theorem textIn_nameRange_of_none {s : Symbol} (h : Text.find? s.name (d.textIn s.range) = none)
    (f : Flags) : d.textIn (d.nameRange (.symbol s f)) = [] := by
  rw [nameRange, namePosition_of_not_find? h, textIn, Range.empty, Text.slice, List.drop_eq_nil_iff]
  exact List.length_take_le _ _

/-- What is highlighted is the word around the first occurrence of the name. -/
theorem exists_word_highlighted {s : Symbol} (hne : s.name ≠ [])
    (hword : s.name.all isWordChar = true) {i : Nat}
    (h : Text.find? s.name (d.textIn s.range) = some i) (f : Flags) :
    ∃ start stop, IsWord d.text start stop ∧ start ≤ d.offsetAt s.range.start + i ∧
      d.offsetAt s.range.start + i + s.name.length ≤ stop ∧
      d.textIn (d.nameRange (.symbol s f)) = d.text.slice start stop := by
  have hchars : ∀ k, k < s.name.length →
      d.text.wordCharAt (d.offsetAt s.range.start + i + k) = true := by
    intro k hk
    have hat := getElem?_of_find? h hk
    rw [List.getElem?_eq_getElem hk] at hat
    rw [Text.wordCharAt_of_getElem? hat]
    exact List.all_eq_true.mp hword _ (List.getElem_mem hk)
  obtain ⟨start, stop, r, hw, hstart, hstop, hat, htext⟩ :=
    exists_wordAt (hchars 0 (List.length_pos_iff.mpr hne))
  refine ⟨start, stop, hw, hstart, ?_, ?_⟩
  · -- the word does not end before the name does
    by_contra hlt
    have hbehind := hw.behind
    obtain ⟨k, rfl⟩ := Nat.exists_eq_add_of_le (Nat.le_of_lt hstop)
    rw [Nat.add_zero, hchars k (by omega)] at hbehind
    cases hbehind
  · rw [nameRange, namePosition_of_find? h]
    dsimp only
    rw [Nat.add_zero] at hat
    rw [hat, htext]

/-- **The name that is highlighted.** For every symbol with a name of word characters, what is
highlighted is the word of the document around the first occurrence of the name in the symbol's
range, and nothing if the name does not occur there. So it is the name exactly if the first
occurrence is a word. -/
theorem name_highlighted_iff (d : Document) (s : Symbol) (f : Flags) (hne : s.name ≠ [])
    (hword : s.name.all isWordChar = true) :
    let found := Text.find? s.name (d.textIn s.range)
    let first i := d.offsetAt s.range.start + i
    let highlighted := d.textIn (d.nameRange (.symbol s f))
    (found = none → highlighted = []) ∧
    (∀ i, found = some i → ∃ start stop, IsWord d.text start stop ∧ start ≤ first i ∧
      first i + s.name.length ≤ stop ∧ highlighted = d.text.slice start stop) ∧
    (highlighted = s.name ↔
      ∃ i, found = some i ∧ IsWord d.text (first i) (first i + s.name.length)) := by
  intro found first highlighted
  refine ⟨fun h => textIn_nameRange_of_none h f, fun i h => exists_word_highlighted hne hword h f,
    ?_⟩
  constructor
  · intro heq
    obtain h | ⟨i, h⟩ := found.eq_none_or_eq_some
    · exact absurd (heq.symm.trans (textIn_nameRange_of_none h f)) hne
    · obtain ⟨start, stop, hw, hstart, hstop, htext⟩ := exists_word_highlighted hne hword h f
      have hlen := congrArg List.length (htext.symm.trans heq)
      rw [Text.length_slice hw.le_length] at hlen
      refine ⟨i, h, ?_⟩
      -- the word is as long as the name, and so it is no more than the occurrence
      obtain rfl : start = first i := by dsimp only [first]; omega
      obtain rfl : stop = first i + s.name.length := by omega
      exact hw
  · rintro ⟨i, h, hw⟩
    obtain ⟨start, stop, hw', hstart, hstop, htext⟩ := exists_word_highlighted hne hword h f
    obtain ⟨rfl, rfl⟩ := hw.unique hw' ⟨Nat.le_refl _, Nat.le_add_right _ _⟩
      ⟨hstart, Nat.le_trans (Nat.le_add_right _ _) hstop⟩
    exact htext.trans (Text.slice_eq_of_getElem? fun k hk => getElem?_of_find? h hk)

/-- The name of the method stands behind `def`, and is what is highlighted. -/
theorem name_highlighted_iff_sample :
    let d := Search.sampleDocument
    let s : Symbol := ⟨['m'], .method, .ofCoords 2 4 3 21, "(self)".toList, 0⟩
    s.name ≠ [] ∧ s.name.all isWordChar = true ∧ d.textIn (d.nameRange (.symbol s {})) = ['m'] := by
  intro d s
  have hne : s.name ≠ [] := by decide
  have hword : s.name.all isWordChar = true := by decide +kernel
  have hw : IsWord d.text 33 34 := mem_wordRuns.mp (by decide +kernel)
  obtain ⟨-, -, hname⟩ := name_highlighted_iff d s {} hne hword
  exact ⟨hne, hword, hname.mpr ⟨4, by decide +kernel, hw⟩⟩

/-- The name of this function is a word of its range, but the keyword in front of it is highlighted.
-/
theorem name_highlighted_astray :
    let d : Document := { text := "def f():\n    pass".toList }
    let s : Symbol := ⟨['f'], .function, .ofCoords 0 0 1 8, none, 0⟩
    (d.Holds s.range.start ∧ d.Holds s.range.stop ∧ s.range.start.le s.range.stop = true) ∧
      (s.name ≠ [] ∧ s.name.all isWordChar = true) ∧
      (IsWord (d.textIn s.range) 4 5 ∧ (d.textIn s.range).slice 4 5 = s.name) ∧
      d.textIn (d.nameRange (.symbol s {})) = "def".toList ∧
      d.textIn (d.nameRange (.symbol s {})) ≠ s.name := by
  intro d s
  have hw : IsWord (d.textIn s.range) 4 5 := mem_wordRuns.mp (by decide +kernel)
  refine ⟨⟨⟨_, rfl, by decide +kernel⟩, ⟨_, rfl, by decide +kernel⟩, by decide⟩,
    ⟨by decide, by decide +kernel⟩, ⟨hw, by decide +kernel⟩, by decide +kernel, by decide +kernel⟩

end Document

end Outline
