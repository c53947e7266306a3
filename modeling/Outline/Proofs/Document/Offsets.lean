import Mathlib.Data.List.Basic
import Outline.Document.Basic

/-!
# Offsets and positions

The text of a document is its lines with a line feed between each two (`join_splitAtChar`), so each
line stands in it from its start on and up to the end or a line feed (`exists_around`), and every
offset lies on exactly one line or at the end of one (`exists_place`, `locate_lineStart`). From
these `offsets_match_positions`: an offset and its position say the same, but for an offset behind a
carriage return that ends a line, which has the position of the end of that line.
-/
namespace Outline

namespace Text

theorem splitAtChar_ne_nil (sep : Char) (t : Text) : splitAtChar sep t ≠ [] := by
  cases t with
  | nil => exact List.cons_ne_nil _ _
  | cons c cs =>
    rw [splitAtChar]
    split
    · exact List.cons_ne_nil _ _
    · split <;> exact List.cons_ne_nil _ _

theorem length_splitAtChar (sep : Char) (t : Text) :
    (splitAtChar sep t).length = t.count sep + 1 := by
  induction t with
  | nil => rfl
  | cons c cs ih =>
    rw [splitAtChar]
    split
    · rename_i hc
      rw [hc, List.count_cons_self, List.length_cons, ih]
    · rename_i hc
      rw [List.count_cons_of_ne hc, ← ih]
      split
      · rename_i hnil
        exact absurd hnil (splitAtChar_ne_nil sep cs)
      · rename_i p ps hcs
        rw [hcs]
        rfl

theorem join_cons {sep t : Text} {ts : List Text} (h : ts ≠ []) :
    join sep (t :: ts) = t ++ sep ++ join sep ts := by
  cases ts with
  | nil => exact absurd rfl h
  | cons => rfl

/-- The pieces between separators make up the text. -/
theorem join_splitAtChar (sep : Char) (t : Text) : join [sep] (splitAtChar sep t) = t := by
  induction t with
  | nil => rfl
  | cons c cs ih =>
    rw [splitAtChar]
    split
    · rename_i hc
      rw [join_cons (splitAtChar_ne_nil sep cs), ih, hc]
      rfl
    · match h : splitAtChar sep cs with
      | [] => exact absurd h (splitAtChar_ne_nil sep cs)
      | [p] => rw [h] at ih; rw [← ih]; rfl
      | p :: q :: ps => rw [h] at ih; rw [← ih]; rfl

theorem not_mem_of_mem_splitAtChar {sep : Char} {t piece : Text} (h : piece ∈ splitAtChar sep t) :
    sep ∉ piece := by
  induction t generalizing piece with
  | nil =>
    obtain rfl : piece = [] := by simpa [splitAtChar] using h
    exact List.not_mem_nil
  | cons c cs ih =>
    rw [splitAtChar] at h
    split at h
    · rcases List.mem_cons.mp h with rfl | h
      · exact List.not_mem_nil
      · exact ih h
    · rename_i hc
      split at h
      · rename_i hnil
        exact absurd hnil (splitAtChar_ne_nil sep cs)
      · rename_i p ps hps
        rw [hps] at ih
        rcases List.mem_cons.mp h with rfl | h
        · exact List.not_mem_cons_of_ne_of_not_mem (Ne.symm hc) (ih (List.mem_cons_self ..))
        · exact ih (List.mem_cons_of_mem _ h)

theorem splitAtChar_append_cons {sep : Char} {piece : Text} (h : sep ∉ piece) (t : Text) :
    splitAtChar sep (piece ++ sep :: t) = piece :: splitAtChar sep t := by
  induction piece with
  | nil => rw [List.nil_append, splitAtChar, if_pos rfl]
  | cons c cs ih =>
    rw [List.mem_cons, not_or] at h
    obtain ⟨hc, hcs⟩ := h
    rw [List.cons_append, splitAtChar, if_neg (Ne.symm hc), ih hcs]

/-- Pieces that a separator ends each, and a text behind them. -/
theorem splitAtChar_flatMap {sep : Char} {pieces : List Text} (h : ∀ p ∈ pieces, sep ∉ p)
    (t : Text) :
    splitAtChar sep (pieces.flatMap (· ++ [sep]) ++ t) = pieces ++ splitAtChar sep t := by
  induction pieces with
  | nil => rfl
  | cons p ps ih =>
    obtain ⟨hp, hps⟩ := List.forall_mem_cons.mp h
    rw [List.flatMap_cons, List.append_assoc, List.append_assoc, List.singleton_append,
      splitAtChar_append_cons hp, ih hps, List.cons_append]

theorem head?_splitAtChar (sep : Char) (t : Text) :
    (splitAtChar sep t).head? = some (t.takeWhile (· ≠ sep)) := by
  induction t with
  | nil => rfl
  | cons c cs ih =>
    rw [splitAtChar]
    split
    · rename_i hc
      rw [List.takeWhile_cons_of_neg (by simpa using hc)]
      rfl
    · rename_i hc
      rw [List.takeWhile_cons_of_pos (by simpa using hc)]
      split
      · rename_i hnil
        exact absurd hnil (splitAtChar_ne_nil sep cs)
      · rename_i p ps hcs
        rw [hcs] at ih
        rw [← Option.some.inj ih]
        rfl

end Text

namespace Document

/-! ## Carriage returns -/

/-- One carriage return at the end is dropped, and nothing else. -/
theorem dropReturn_cases (t : Text) :
    (t = dropReturn t ++ ['\r']) ∨ (dropReturn t = t ∧ t.getLast? ≠ some '\r') := by
  fun_induction dropReturn t with
  | case1 => exact Or.inr ⟨rfl, nofun⟩
  | case2 => exact Or.inl rfl
  | case3 c cs hne ih =>
    rcases ih with h | ⟨h, hlast⟩
    · exact Or.inl (by rw [List.cons_append, ← h])
    · refine Or.inr ⟨by rw [h], ?_⟩
      cases cs with
      | nil => simpa using hne
      | cons d ds => rwa [List.getLast?_cons_cons]

theorem dropReturn_front (t : Text) : dropReturn t <+: t := by
  rcases dropReturn_cases t with h | ⟨h, -⟩
  · exact ⟨['\r'], h.symm⟩
  · exact ⟨[], (List.append_nil _).trans h⟩

theorem dropReturn_of_not_mem {t : Text} (h : '\r' ∉ t) : dropReturn t = t := by
  rcases dropReturn_cases t with ht | ⟨ht, -⟩
  · rw [ht] at h
    exact absurd (List.mem_append_right _ (List.mem_singleton.mpr rfl)) h
  · exact ht

theorem length_dropReturn_le (t : Text) : (dropReturn t).length ≤ t.length :=
  (dropReturn_front t).length_le

theorem le_length_dropReturn (t : Text) : t.length ≤ (dropReturn t).length + 1 := by
  rcases dropReturn_cases t with h | ⟨h, -⟩
  · exact Nat.le_of_eq (by simpa using congrArg List.length h)
  · rw [h]
    exact Nat.le_succ _

/-! ## Lines and their starts -/

/-- A text is what stands before a line, the line, and what follows it. -/
structure Around (text raw : Text) (start : Nat) (before after : Text) : Prop where
  text_eq : text = before ++ (raw ++ after)
  length_before : before.length = start
  behind : before.getLast?.all (· == '\n') = true
  ahead : after.head?.all (· == '\n') = true

theorem exists_around {raws : List Text} {n : Nat} {raw : Text} (h : raws[n]? = some raw) :
    ∃ before after, Around (Text.join ['\n'] raws) raw (lineStart raws n) before after := by
  induction raws generalizing n with
  | nil => simp at h
  | cons first rest ih =>
    cases n with
    | zero =>
      obtain rfl : first = raw := by simpa using h
      cases rest with
      | nil => exact ⟨[], [], by simp [Text.join], rfl, rfl, rfl⟩
      | cons second rest =>
        refine ⟨[], '\n' :: Text.join ['\n'] (second :: rest), ?_, rfl, rfl, rfl⟩
        rw [Text.join_cons (List.cons_ne_nil _ _)]
        simp
    | succ n =>
      obtain ⟨before, after, hjoin, hlen, hbehind, hahead⟩ := ih (n := n) h
      have hne : rest ≠ [] := by rintro rfl; simp at h
      refine ⟨first ++ '\n' :: before, after, ?_, ?_, ?_, hahead⟩
      · rw [Text.join_cons hne, hjoin]
        simp
      · rw [lineStart, ← hlen, List.length_append, List.length_cons]
        omega
      · rw [List.getLast?_append_cons]
        cases before with
        | nil => rfl
        | cons => rwa [List.getLast?_cons_cons]

/-- Every offset in a text lies on a line or at its end. -/
theorem exists_place {raws : List Text} (hne : raws ≠ []) {offset : Nat}
    (h : offset ≤ (Text.join ['\n'] raws).length) :
    ∃ n raw c, raws[n]? = some raw ∧ c ≤ raw.length ∧ offset = lineStart raws n + c := by
  induction raws generalizing offset with
  | nil => exact absurd rfl hne
  | cons first rest ih =>
    by_cases hfirst : offset ≤ first.length
    · exact ⟨0, first, offset, rfl, hfirst, by rw [lineStart, Nat.zero_add]; simp⟩
    · have hrest : rest ≠ [] := by
        rintro rfl
        exact hfirst h
      rw [Text.join_cons hrest, List.append_assoc, List.length_append, List.length_append] at h
      simp only [List.length_cons, List.length_nil] at h
      have hbehind : offset - (first.length + 1) ≤ (Text.join ['\n'] rest).length := by omega
      obtain ⟨n, raw, c, hn, hc, ho⟩ := ih hrest hbehind
      exact ⟨n + 1, raw, c, hn, hc, by rw [lineStart]; omega⟩

/-- A line starts behind the line feed of every earlier one. -/
theorem lineStart_of_lt {raws : List Text} {m n : Nat} {raw : Text} (h : raws[m]? = some raw)
    (hmn : m < n) (hn : n < raws.length) :
    lineStart raws m + raw.length + 1 ≤ lineStart raws n := by
  induction raws generalizing m n with
  | nil => simp at h
  | cons first rest ih =>
    obtain ⟨n, rfl⟩ := Nat.exists_eq_add_one_of_ne_zero (show n ≠ 0 by omega)
    cases m with
    | zero =>
      obtain rfl : first = raw := by simpa using h
      rw [lineStart, lineStart]
      · omega
      · simp
    | succ m =>
      have := ih (m := m) (n := n) h (by omega) (by simpa using hn)
      rw [lineStart, lineStart]
      omega

theorem locate_lineStart {raws : List Text} {n : Nat} {raw : Text} (h : raws[n]? = some raw)
    {c : Nat} (hc : c ≤ raw.length) (line : Nat) :
    locate (lineStart raws n + c) line raws = ⟨line + n, min c (dropReturn raw).length⟩ := by
  induction raws generalizing n line with
  | nil => simp at h
  | cons first rest ih =>
    cases n with
    | zero =>
      obtain rfl : first = raw := by simpa using h
      have hstart : lineStart (first :: rest) 0 = 0 := by rw [lineStart]; simp
      rw [hstart, Nat.zero_add, locate, if_pos (by simp [hc])]
      rfl
    | succ n =>
      have hne : rest.isEmpty = false := by
        cases rest with
        | nil => simp at h
        | cons => rfl
      rw [lineStart, locate, if_neg (by simp [hne]; omega)]
      have hshift : first.length + 1 + lineStart rest n + c - (first.length + 1) =
          lineStart rest n + c := by omega
      rw [hshift, ih (n := n) h, Nat.add_right_comm, Nat.add_assoc]

/-! ## Positions of a document -/

/-- Whether a position is one of the document: on one of its lines, and not behind the line's end.
-/
def Holds (d : Document) (p : Position) : Prop :=
  ∃ text, d.lines[p.line]? = some text ∧ p.character ≤ text.length

/-- Whether an offset lies behind a carriage return that ends a line. -/
def behindReturn (d : Document) (offset : Nat) : Bool :=
  (d.text.take offset).getLast? == some '\r' && (d.text.drop offset).head?.all (· == '\n')

variable {d : Document} {n : Nat} {raw : Text}

theorem join_rawLines (d : Document) : Text.join ['\n'] d.rawLines = d.text :=
  Text.join_splitAtChar '\n' d.text

theorem rawLines_ne_nil (d : Document) : d.rawLines ≠ [] := Text.splitAtChar_ne_nil '\n' d.text

theorem lines_getElem? (h : d.rawLines[n]? = some raw) : d.lines[n]? = some (dropReturn raw) := by
  rw [lines, List.getElem?_map, h]
  rfl

theorem holds_iff {p : Position} :
    d.Holds p ↔ ∃ raw, d.rawLines[p.line]? = some raw ∧ p.character ≤ (dropReturn raw).length := by
  simp only [Holds, lines, List.getElem?_map, Option.map_eq_some_iff]
  constructor
  · rintro ⟨_, ⟨raw, hraw, rfl⟩, hc⟩
    exact ⟨raw, hraw, hc⟩
  · rintro ⟨raw, hraw, hc⟩
    exact ⟨_, ⟨raw, hraw, rfl⟩, hc⟩

theorem exists_around_line (h : d.rawLines[n]? = some raw) :
    ∃ before after, Around d.text raw (lineStart d.rawLines n) before after := by
  rw [← join_rawLines]
  exact exists_around h

theorem lineStart_add_le (h : d.rawLines[n]? = some raw) {c : Nat} (hc : c ≤ raw.length) :
    lineStart d.rawLines n + c ≤ d.text.length := by
  obtain ⟨before, after, htext, hlen, -⟩ := exists_around_line h
  rw [htext, ← hlen, List.length_append, List.length_append]
  omega

theorem offsetAt_of_line (h : d.rawLines[n]? = some raw) (c : Nat) :
    d.offsetAt ⟨n, c⟩ = lineStart d.rawLines n + min c (dropReturn raw).length := by
  have hlt : n < d.rawLines.length := (List.getElem?_eq_some_iff.mp h).1
  have hline : min n (d.rawLines.length - 1) = n := by omega
  rw [offsetAt]
  dsimp only
  rw [hline, h]
  rfl

/-- The end of a line, or of a later one, lies behind all that stands on the line. -/
theorem offsetAt_lt_end (h : d.rawLines[n]? = some raw) {m : Nat} {last : Text}
    (hm : d.rawLines[m]? = some last) (hnm : n ≤ m) {c : Nat} (hc : c < (dropReturn raw).length) :
    d.offsetAt ⟨n, c⟩ < d.offsetAt ⟨m, (dropReturn last).length⟩ := by
  rw [offsetAt_of_line h, offsetAt_of_line hm, Nat.min_self]
  rcases Nat.lt_or_eq_of_le hnm with hlt | rfl
  · have hstart := lineStart_of_lt h hlt (List.getElem?_eq_some_iff.mp hm).1
    have hlength := length_dropReturn_le raw
    omega
  · rw [h] at hm
    cases hm
    omega

theorem positionAt_of_line (h : d.rawLines[n]? = some raw) {c : Nat} (hc : c ≤ raw.length) :
    d.positionAt (lineStart d.rawLines n + c : Nat) = ⟨n, min c (dropReturn raw).length⟩ := by
  have hle := lineStart_add_le h hc
  rw [positionAt, Int.toNat_natCast, Nat.min_eq_left hle, locate_lineStart h hc, Nat.zero_add]

/-- An offset outside the text has the position of the nearer end, and every offset in it lies on a
line or at its end. -/
theorem exists_line (d : Document) (offset : Int) :
    ∃ n raw c, d.rawLines[n]? = some raw ∧ c ≤ raw.length ∧
      min offset.toNat d.text.length = lineStart d.rawLines n + c ∧
      d.positionAt offset = ⟨n, min c (dropReturn raw).length⟩ := by
  have hle : min offset.toNat d.text.length ≤ (Text.join ['\n'] d.rawLines).length := by
    rw [join_rawLines]
    exact Nat.min_le_right _ _
  obtain ⟨n, raw, c, hraw, hc, ho⟩ := exists_place d.rawLines_ne_nil hle
  exact ⟨n, raw, c, hraw, hc, ho, by
    rw [positionAt, ho, locate_lineStart hraw hc, Nat.zero_add]⟩

/-! ## There and back -/

theorem positionAt_offsetAt {p : Position} (h : d.Holds p) : d.positionAt (d.offsetAt p) = p := by
  obtain ⟨raw, hraw, hc⟩ := holds_iff.mp h
  have hle := Nat.le_trans hc (length_dropReturn_le raw)
  rw [offsetAt_of_line hraw, Nat.min_eq_left hc, positionAt_of_line hraw hle, Nat.min_eq_left hc]

theorem holds_positionAt (d : Document) (offset : Int) : d.Holds (d.positionAt offset) := by
  obtain ⟨n, raw, c, hraw, -, -, hp⟩ := d.exists_line offset
  rw [hp, holds_iff]
  exact ⟨raw, hraw, Nat.min_le_right _ _⟩

theorem positionAt_mono (d : Document) {offset offset' : Int} (h : offset ≤ offset') :
    (d.positionAt offset).le (d.positionAt offset') = true := by
  obtain ⟨n, raw, c, hraw, hc, ho, hp⟩ := d.exists_line offset
  obtain ⟨n', raw', c', hraw', hc', ho', hp'⟩ := d.exists_line offset'
  have hle : lineStart d.rawLines n + c ≤ lineStart d.rawLines n' + c' := by omega
  have hlt := (List.getElem?_eq_some_iff.mp hraw).1
  rw [hp, hp', Position.le, Bool.or_eq_true, Bool.and_eq_true, decide_eq_true_eq, beq_iff_eq,
    decide_eq_true_eq]
  rcases Nat.lt_trichotomy n n' with hn | rfl | hn
  · exact Or.inl hn
  · obtain rfl : raw = raw' := Option.some.inj (hraw.symm.trans hraw')
    exact Or.inr ⟨rfl, by dsimp only; omega⟩
  · have := lineStart_of_lt hraw' hn hlt
    omega

/-- An offset lies behind a carriage return that ends a line exactly if it lies behind the text of
its line. -/
theorem behindReturn_iff (h : d.rawLines[n]? = some raw) {c : Nat} (hc : c ≤ raw.length) :
    d.behindReturn (lineStart d.rawLines n + c) = true ↔ (dropReturn raw).length < c := by
  obtain ⟨before, after, htext, hlen, hbehind, hahead⟩ := exists_around_line h
  have htake : d.text.take (lineStart d.rawLines n + c) = before ++ raw.take c := by
    rw [htext, ← hlen, List.take_length_add_append, List.take_append_of_le_length hc]
  have hdrop : d.text.drop (lineStart d.rawLines n + c) = raw.drop c ++ after := by
    rw [htext, ← hlen, List.drop_length_add_append, List.drop_append_of_le_length hc]
  rw [behindReturn, htake, hdrop, Bool.and_eq_true, beq_iff_eq]
  rcases Nat.lt_or_eq_of_le hc with hlt | rfl
  · -- a line feed would have ended the line, so there is none behind the offset
    have hnot : raw[c] ≠ '\n' := fun heq =>
      Text.not_mem_of_mem_splitAtChar (List.mem_of_getElem? h) (heq ▸ List.getElem_mem hlt)
    have hhead : (raw.drop c ++ after).head? = some raw[c] := by
      rw [List.drop_eq_getElem_cons hlt]
      rfl
    have hle := le_length_dropReturn raw
    rw [hhead, Option.all_some, beq_iff_eq]
    exact iff_of_false (fun hr => hnot hr.2) (by omega)
  · rw [List.take_length, List.drop_length, List.nil_append, and_iff_left hahead]
    rcases dropReturn_cases raw with hraw | ⟨hraw, hlast⟩
    · have hlength := congrArg List.length hraw
      rw [List.length_append, List.length_singleton] at hlength
      refine iff_of_true ?_ (by omega)
      rw [hraw, ← List.append_assoc, List.getLast?_concat]
    · refine iff_of_false (fun hr => ?_) (by rw [hraw]; exact Nat.lt_irrefl _)
      rw [List.getLast?_append, Option.or_eq_some_iff] at hr
      rcases hr with hr | ⟨-, hr⟩
      · exact hlast hr
      · rw [hr] at hbehind
        exact absurd hbehind (by decide)

theorem offsetAt_positionAt {offset : Nat} (h : offset ≤ d.text.length) :
    d.offsetAt (d.positionAt offset) = if d.behindReturn offset then offset - 1 else offset := by
  obtain ⟨n, raw, c, hraw, hc, ho, hp⟩ := d.exists_line offset
  rw [Int.toNat_natCast, Nat.min_eq_left h] at ho
  subst ho
  have hlen := le_length_dropReturn raw
  have hback := behindReturn_iff hraw hc
  rw [hp, offsetAt_of_line hraw, Nat.min_assoc, Nat.min_self]
  split
  · rename_i hb
    have := hback.mp hb
    omega
  · rename_i hb
    rw [hback] at hb
    omega

theorem textIn_line (h : d.rawLines[n]? = some raw) :
    d.textIn (Line.whole n (dropReturn raw)).range = dropReturn raw := by
  obtain ⟨before, after, htext, hlen, -⟩ := exists_around_line h
  have hpre : dropReturn raw = raw.take (dropReturn raw).length :=
    List.prefix_iff_eq_take.mp (dropReturn_front raw)
  rw [textIn, Line.whole, Range.ofCoords, offsetAt_of_line h, offsetAt_of_line h, Nat.min_self,
    Nat.zero_min, Nat.add_zero, Text.slice, ← hlen, htext, List.take_length_add_append,
    List.drop_left, List.take_append_of_le_length (length_dropReturn_le raw), ← hpre]

theorem getElem?_text (h : d.rawLines[n]? = some raw) {c : Nat} (hc : c < raw.length) :
    d.text[lineStart d.rawLines n + c]? = raw[c]? := by
  obtain ⟨before, after, htext, hlen, -⟩ := exists_around_line h
  rw [htext, ← hlen, List.getElem?_append_right (Nat.le_add_right _ _), Nat.add_sub_cancel_left,
    List.getElem?_append_left hc]

/-- Behind a line stands a line feed, if anything. -/
theorem getElem?_text_length (h : d.rawLines[n]? = some raw) :
    d.text[lineStart d.rawLines n + raw.length]?.all (· == '\n') = true := by
  obtain ⟨before, after, htext, hlen, -, hahead⟩ := exists_around_line h
  rw [htext, ← hlen, List.getElem?_append_right (Nat.le_add_right _ _), Nat.add_sub_cancel_left,
    List.getElem?_append_right (Nat.le_refl _), Nat.sub_self, ← List.head?_eq_getElem?]
  exact hahead

theorem head?_textIn (d : Document) (r : Range) :
    (d.textIn r).head? =
      if d.offsetAt r.start < d.offsetAt r.stop then d.text[d.offsetAt r.start]? else none := by
  rw [textIn, Text.slice, List.head?_drop, List.getElem?_take]

/-- A range that starts on a line begins with what stands there. -/
theorem head?_textIn_of_lt (h : d.rawLines[n]? = some raw) {c : Nat}
    (hc : c < (dropReturn raw).length) {q : Position} (hq : d.offsetAt ⟨n, c⟩ < d.offsetAt q) :
    (d.textIn ⟨⟨n, c⟩, q⟩).head? = raw[c]? := by
  rw [head?_textIn, if_pos hq, offsetAt_of_line h, Nat.min_eq_left (Nat.le_of_lt hc)]
  exact getElem?_text h (Nat.lt_of_lt_of_le hc (length_dropReturn_le raw))

/-- A range that starts at the end of a line begins with a line feed, if with anything. -/
theorem head?_textIn_length (h : d.rawLines[n]? = some raw) (hraw : dropReturn raw = raw)
    (q : Position) : (d.textIn ⟨⟨n, raw.length⟩, q⟩).head?.all (· == '\n') = true := by
  rw [head?_textIn]
  split
  · rw [offsetAt_of_line h, hraw, Nat.min_self]
    exact getElem?_text_length h
  · rfl

theorem lineAt_of_lt {n : Nat} (h : n < d.lineCount) :
    ∃ raw, d.rawLines[n]? = some raw ∧ d.lineAt n = .ok (Line.whole n (dropReturn raw)) := by
  obtain ⟨raw, hraw⟩ : ∃ raw, d.rawLines[n]? = some raw :=
    ⟨_, List.getElem?_eq_getElem (by simpa [lineCount, lines] using h)⟩
  exact ⟨raw, hraw, lineAt_eq_ok.mpr ⟨lines_getElem? hraw, rfl⟩⟩

/-- **Offsets and positions.** Every position of a document is that of its offset. Every offset,
also one outside the text, has a position of the document, and a greater offset has no earlier one.
An offset in the text is that of its position, unless it lies behind a carriage return that ends a
line: then it is one more. The text in the range of a line is the text of the line. -/
theorem offsets_match_positions (d : Document) :
    (∀ p, d.Holds p → d.positionAt (d.offsetAt p) = p) ∧
    (∀ offset, d.Holds (d.positionAt offset)) ∧
    (∀ offset offset', offset ≤ offset' →
      (d.positionAt offset).le (d.positionAt offset') = true) ∧
    (∀ offset : Nat, offset ≤ d.text.length →
      d.offsetAt (d.positionAt offset) = if d.behindReturn offset then offset - 1 else offset) ∧
    ∀ n : Nat, n < d.lineCount →
      ∃ line, d.lineAt n = .ok line ∧ d.textIn line.range = line.text := by
  refine ⟨fun p hp => positionAt_offsetAt hp, holds_positionAt d, fun _ _ h => d.positionAt_mono h,
    fun _ h => offsetAt_positionAt h, fun n hn => ?_⟩
  obtain ⟨raw, hraw, hline⟩ := lineAt_of_lt hn
  exact ⟨_, hline, textIn_line hraw⟩

/-- A line that ends in two carriage returns keeps one. The offset behind both has the position
between them; a carriage return in the middle of a line is like any other character. -/
theorem offsets_match_positions_sample :
    let d : Document := { text := "a\r\r\n\rb\n".toList }
    d.positionAt (d.offsetAt ⟨1, 1⟩) = ⟨1, 1⟩ ∧ d.offsetAt (d.positionAt (3 : Nat)) = 2 ∧
      d.offsetAt (d.positionAt (5 : Nat)) = 5 := by
  intro d
  obtain ⟨hback, -, -, hthere, -⟩ := offsets_match_positions d
  exact ⟨hback ⟨1, 1⟩ ⟨['\r', 'b'], by decide, by decide⟩, hthere 3 (by decide),
    hthere 5 (by decide)⟩

end Document

end Outline
