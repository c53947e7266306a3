import Outline.Proofs.Pattern.Extent
import Outline.Proofs.Query.Hits
import Outline.Proofs.Text.Occurrence
import Outline.Session.Basic

/-!
# Where the spans of a hit lie

A pattern, and a word in which case counts, is looked for in the line itself, and its span lies in
the line. A word without capitals is looked for in the lower-case form of the line, and its span is
counted there: where the line has capitals that grow on becoming small, the span may reach beyond
its end. `spans_in_line` says when all spans lie in the line, `spans_astray` shows one that does
not.
-/
namespace Outline

namespace Token

/-- Whether the word is looked for in lower-case forms and leaves a span. -/
def folds (t : Token) : Bool := !t.isRegex && !t.caseSensitive && !t.negate

theorem folds_iff {t : Token} :
    t.folds = true ↔ t.isRegex = false ∧ t.caseSensitive = false ∧ t.negate = false := by
  simp [folds, and_assoc]

theorem locate_folded {t : Token} (hr : t.isRegex = false) (hc : t.caseSensitive = false)
    {text : Text} {s : Span} :
    t.locate text = .ok (some (some s)) ↔
      ∃ i, Text.find? t.pattern.lower text.lower = some i ∧ s = ⟨i, t.pattern.length⟩ := by
  simp only [locate, hr, hc, Bool.false_eq_true, if_false, Except.ok.injEq, Option.some.injEq,
    Option.map_eq_some_iff, @eq_comm _ s]

/-- What is looked for in the line itself lies in it. -/
theorem add_length_le_of_locate {t : Token} (ht : t.isRegex = true ∨ t.caseSensitive = true)
    {text : Text} {s : Span} (h : t.locate text = .ok (some (some s))) :
    s.start + s.length ≤ text.length := by
  rw [locate] at h
  split at h
  · obtain ⟨_ | p, hp, h⟩ := bind_eq_ok.mp h
    · cases h
    · simp only [pure, Except.pure, Except.ok.injEq, Option.some.injEq,
        Option.map_eq_some_iff] at h
      obtain ⟨⟨a, b⟩, hfound, rfl⟩ := h
      have hbounds := Pattern.Compiled.search_bounds hfound
      show a + (b - a) ≤ text.length
      omega
  · rename_i hr
    rw [if_pos (ht.resolve_left hr)] at h
    simp only [Except.ok.injEq, Option.some.injEq, Option.map_eq_some_iff] at h
    obtain ⟨i, hi, rfl⟩ := h
    exact Text.add_length_le_of_find? hi

end Token

theorem mem_matchSpans {text : Text} {ts : List Token} {r : List Span} {s : Span}
    (h : matchSpans text ts = .ok (some r)) :
    s ∈ r ↔ ∃ t ∈ ts, t.negate = false ∧ t.locate text = .ok (some (some s)) := by
  induction ts generalizing r with
  | nil =>
    cases h
    simp
  | cons t ts ih =>
    obtain ⟨ss, rest, hss, hrest, rfl⟩ := matchSpans_cons.mp h
    obtain ⟨found, hlocate, hneg, rfl⟩ := Token.spans?_eq_some.mp hss
    simp only [List.mem_append, ih hrest, List.mem_cons, exists_eq_or_imp, hlocate, Except.ok.injEq,
      Option.some.injEq, Option.mem_toList]
    refine or_congr_left ⟨fun hs => ⟨?_, hs⟩, And.right⟩
    simpa [hs] using hneg

theorem mem_spans {n : Nat} {text : Text} {ts : List Token} {hit : Hit} {s : Span}
    (h : matchLine n text ts = .ok (some hit)) :
    s ∈ hit.spans ↔ ∃ t ∈ ts, t.negate = false ∧ t.locate text = .ok (some (some s)) := by
  obtain ⟨r, hr, rfl⟩ := matchLine_eq_some.mp h
  exact mem_matchSpans hr

/-- A span lies in the line, or it is that of a word found in the lower-case form. -/
theorem span_cases {n : Nat} {text : Text} {ts : List Token} {hit : Hit} {s : Span}
    (h : matchLine n text ts = .ok (some hit)) (hs : s ∈ hit.spans) :
    s.start + s.length ≤ text.length ∨
      ∃ t ∈ ts, t.folds = true ∧ ∃ i, Text.find? t.pattern.lower text.lower = some i ∧
        s = ⟨i, t.pattern.length⟩ := by
  obtain ⟨t, ht, hneg, hlocate⟩ := (mem_spans h).mp hs
  by_cases hline : t.isRegex = true ∨ t.caseSensitive = true
  · exact .inl (Token.add_length_le_of_locate hline hlocate)
  · obtain ⟨hr, hc⟩ : t.isRegex = false ∧ t.caseSensitive = false := by simpa using hline
    exact .inr ⟨t, ht, Token.folds_iff.mpr ⟨hr, hc, hneg⟩, (Token.locate_folded hr hc).mp hlocate⟩

/-- While the spans lie in the line, accepting its leaf leads to a place on it. -/
theorem exists_target {n : Nat} {text : Text} {hit : Hit}
    (h : ∀ s ∈ hit.spans, s.start + s.length ≤ text.length) (depth : Nat) (f : Flags) :
    ∃ c ≤ text.length,
      Session.targetRange (.leaf ⟨⟨Line.whole n text, hit⟩, depth⟩ f) = .empty ⟨n, c⟩ := by
  refine ⟨_, ?_, rfl⟩
  cases hspans : hit.spans with
  | nil => exact Nat.zero_le _
  | cons s rest =>
    have := h s (by simp [hspans])
    show s.start ≤ text.length
    omega

/-- **Where the spans of a hit lie.** The spans lie in the line if and only if no word without
capitals first occurs among as many characters at the end of the line's lower-case form as the line
has capital I's with a dot; they never reach further beyond the line than that. While they lie in
the line, accepting its leaf leads to a place on it. -/
theorem spans_in_line {n : Nat} {text : Text} {ts : List Token} {hit : Hit}
    (h : matchLine n text ts = .ok (some hit)) :
    ((∀ s ∈ hit.spans, s.start + s.length ≤ text.length) ↔
      ∀ t ∈ ts, t.folds = true → ∀ i, Text.find? t.pattern.lower text.lower = some i →
        i + t.pattern.length + text.count Text.dottedCapital ≤ text.lower.length) ∧
    (∀ s ∈ hit.spans, s.start + s.length ≤ text.length + text.count Text.dottedCapital) ∧
    ((∀ s ∈ hit.spans, s.start + s.length ≤ text.length) → ∀ depth f, ∃ c ≤ text.length,
      Session.targetRange (.leaf ⟨⟨Line.whole n text, hit⟩, depth⟩ f) = .empty ⟨n, c⟩) := by
  have hlower := Text.length_lower text
  refine ⟨⟨?_, ?_⟩, ?_, exists_target⟩
  · intro hin t ht hfolds i hi
    obtain ⟨hr, hc, hneg⟩ := Token.folds_iff.mp hfolds
    have hs := (mem_spans h).mpr ⟨t, ht, hneg, (Token.locate_folded hr hc).mpr ⟨i, hi, rfl⟩⟩
    have : i + t.pattern.length ≤ text.length := hin _ hs
    omega
  · intro hfolded s hs
    obtain hin | ⟨t, ht, hfolds, i, hi, rfl⟩ := span_cases h hs
    · exact hin
    · have := hfolded t ht hfolds i hi
      show i + t.pattern.length ≤ text.length
      omega
  · intro s hs
    obtain hin | ⟨t, -, -, i, hi, rfl⟩ := span_cases h hs
    · exact Nat.le_add_right_of_le hin
    · -- the pattern is no longer than its lower-case form, which lies in that of the line
      have hend := Text.add_length_le_of_find? hi
      rw [hlower, Text.length_lower] at hend
      show i + t.pattern.length ≤ text.length + text.count Text.dottedCapital
      omega

/-- A line with a capital that grows, behind the first word. -/
def growingLine : Text := "def \u0130(x)".toList

theorem spans_in_line_sample :
    matchLine 0 growingLine (tokenize "def /x/".toList) = .ok (some ⟨0, [⟨0, 3⟩, ⟨6, 1⟩]⟩) ∧
      (∀ i, Text.find? (Text.lower "def".toList) growingLine.lower = some i →
        i + 3 + 1 ≤ growingLine.lower.length) ∧
      ∀ depth f, ∃ c ≤ 8, Session.targetRange (.leaf ⟨⟨Line.whole 0 growingLine,
        ⟨0, [⟨0, 3⟩, ⟨6, 1⟩]⟩⟩, depth⟩ f) = .empty ⟨0, c⟩ := by
  have h : matchLine 0 growingLine (tokenize "def /x/".toList) =
      .ok (some ⟨0, [⟨0, 3⟩, ⟨6, 1⟩]⟩) := by decide +kernel
  have hin : ∀ s ∈ ([⟨0, 3⟩, ⟨6, 1⟩] : List Span), s.start + s.length ≤ growingLine.length := by
    decide +kernel
  exact ⟨h, (spans_in_line h).1.mp hin { pattern := "def".toList } (by decide +kernel) rfl,
    (spans_in_line h).2.2 hin⟩

/-- Behind two capitals that grow a word is found beyond the end of the line, and accepting the leaf
leads there. -/
theorem spans_astray :
    let line : Text := "\u0130\u0130x".toList
    matchLine 0 line (tokenize "x".toList) = .ok (some ⟨0, [⟨4, 1⟩]⟩) ∧
      ¬4 + 1 ≤ line.length ∧
      Session.targetRange (.leaf ⟨⟨Line.whole 0 line, ⟨0, [⟨4, 1⟩]⟩⟩, 1⟩ .leaf) =
        .empty ⟨0, 4⟩ := by
  decide +kernel

end Outline
