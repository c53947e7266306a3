import Mathlib.Data.Nat.Find
import Outline.Proofs.Document.Offsets

/-!
# Words of a document

A word is a run of word characters that no word character stands next to (`IsWord`). The runs that a
line is searched for are its words (`mem_wordRuns`), two words that touch one place are the same
(`IsWord.unique`), and a word of a line is a word of the whole text (`isWord_text`). So the word at
a position is the one that touches it (`wordAt_eq_some`), and around every word character of a text
there is one (`exists_wordAt`).
-/
namespace Outline

/-- Whether a word character stands at an index. -/
def Text.wordCharAt (t : Text) (i : Nat) : Bool := t[i]?.any isWordChar

/-- A run of word characters from one index up to another, with no word character on either side. -/
structure IsWord (t : Text) (start stop : Nat) : Prop where
  lt : start < stop
  all : ∀ i, start ≤ i → i < stop → t.wordCharAt i = true
  front : ∀ i, i + 1 = start → t.wordCharAt i = false
  behind : t.wordCharAt stop = false

namespace Text

variable {t : Text} {i : Nat}

theorem wordCharAt_of_getElem? {c : Char} (h : t[i]? = some c) : t.wordCharAt i = isWordChar c := by
  rw [wordCharAt, h, Option.any_some]

theorem wordCharAt_of_length_le (h : t.length ≤ i) : t.wordCharAt i = false := by
  rw [wordCharAt, List.getElem?_eq_none h, Option.any_none]

theorem lt_length_of_wordCharAt (h : t.wordCharAt i = true) : i < t.length := by
  by_contra hge
  rw [wordCharAt_of_length_le (Nat.le_of_not_lt hge)] at h
  cases h

end Text

namespace IsWord

variable {t : Text} {start stop start' stop' p : Nat}

theorem le_length (h : IsWord t start stop) : stop ≤ t.length := by
  have hlast := Text.lt_length_of_wordCharAt (h.all (stop - 1) (by have := h.lt; omega)
    (by have := h.lt; omega))
  omega

/-- Of two words that touch one place, neither begins before the other. -/
theorem start_le (h : IsWord t start stop) (h' : IsWord t start' stop') (hp : p ≤ stop)
    (hp' : start' ≤ p) : start' ≤ start := by
  by_contra hlt
  have hbefore := h'.front (start' - 1) (by omega)
  rw [h.all (start' - 1) (by omega) (by omega)] at hbefore
  cases hbefore

/-- Of two words that begin at one place, neither ends before the other. -/
theorem stop_le (h : IsWord t start stop) (h' : IsWord t start stop') : stop' ≤ stop := by
  by_contra hlt
  have hbehind := h.behind
  rw [h'.all stop (Nat.le_of_lt h.lt) (by omega)] at hbehind
  cases hbehind

/-- At most one word touches a place. -/
theorem unique (h : IsWord t start stop) (h' : IsWord t start' stop') (hp : start ≤ p ∧ p ≤ stop)
    (hp' : start' ≤ p ∧ p ≤ stop') : start' = start ∧ stop' = stop := by
  obtain rfl : start' = start :=
    Nat.le_antisymm (h.start_le h' hp.2 hp'.1) (h'.start_le h hp'.2 hp.1)
  exact ⟨rfl, Nat.le_antisymm (h.stop_le h') (h'.stop_le h)⟩

/-- A word is followed by what is no word character. -/
theorem exists_cut (h : IsWord t start stop) :
    ∃ word rest, t.drop start = word ++ rest ∧ start + word.length = stop ∧
      (∀ c ∈ word, isWordChar c = true) ∧ rest.head?.any isWordChar = false := by
  have hlt := h.lt
  have hle := h.le_length
  refine ⟨(t.drop start).take (stop - start), t.drop stop, ?_, ?_, fun c hc => ?_, ?_⟩
  · have hrest : t.drop stop = (t.drop start).drop (stop - start) := by
      rw [List.drop_drop, Nat.add_sub_cancel' (Nat.le_of_lt hlt)]
    rw [hrest, List.take_append_drop]
  · rw [List.length_take, List.length_drop]
    omega
  · obtain ⟨k, hk⟩ := List.mem_iff_getElem?.mp hc
    rw [List.getElem?_take, Option.ite_none_right_eq_some, List.getElem?_drop] at hk
    obtain ⟨hlt, hk⟩ := hk
    rw [← Text.wordCharAt_of_getElem? hk]
    exact h.all (start + k) (Nat.le_add_right ..) (by omega)
  · rw [List.head?_drop]
    exact h.behind

end IsWord

/-- From a word character back to where its word begins. -/
theorem exists_front {t : Text} {i : Nat} (h : t.wordCharAt i = true) :
    ∃ start, start ≤ i ∧ (∀ k, start ≤ k → k ≤ i → t.wordCharAt k = true) ∧
      ∀ k, k + 1 = start → t.wordCharAt k = false := by
  induction i with
  | zero =>
    refine ⟨0, Nat.le_refl _, fun k _ hk => ?_, fun k hk => by omega⟩
    rwa [Nat.le_zero.mp hk]
  | succ i ih =>
    cases hi : t.wordCharAt i with
    | true =>
      obtain ⟨start, hle, hall, hfront⟩ := ih hi
      refine ⟨start, by omega, fun k hk hk' => ?_, hfront⟩
      rcases Nat.lt_or_eq_of_le hk' with hlt | rfl
      · exact hall k hk (by omega)
      · exact h
    | false =>
      refine ⟨i + 1, Nat.le_refl _, fun k hk hk' => ?_, fun k hk => ?_⟩
      · rwa [Nat.le_antisymm hk' hk]
      · rwa [Nat.succ.inj hk]

/-- Every word character lies in a word. -/
theorem exists_isWord {t : Text} {i : Nat} (h : t.wordCharAt i = true) :
    ∃ start stop, IsWord t start stop ∧ start ≤ i ∧ i < stop := by
  obtain ⟨start, hle, hall, hfront⟩ := exists_front h
  have hends : ∃ k, t.wordCharAt (i + k) = false :=
    ⟨t.length, Text.wordCharAt_of_length_le (Nat.le_add_left _ _)⟩
  have hstop := Nat.find_spec hends
  have hpos : Nat.find hends ≠ 0 := fun hzero => by
    rw [hzero, Nat.add_zero, h] at hstop
    cases hstop
  refine ⟨start, i + Nat.find hends, ⟨by omega, fun k hk hk' => ?_, hfront, hstop⟩, hle, by omega⟩
  rcases Nat.le_total k i with hki | hik
  · exact hall k hk hki
  · have hmin := Nat.find_min hends (m := k - i) (by omega)
    rwa [Nat.add_sub_cancel' hik, Bool.not_eq_false] at hmin

namespace Document

/-! ## The words of a line -/

/-- Where a word that goes up to an index began, if there is such a word. -/
def BeganAt (t : Text) (index : Nat) : Option Nat → Prop
  | none => ∀ i, i + 1 = index → t.wordCharAt i = false
  | some start => start < index ∧ (∀ i, start ≤ i → i < index → t.wordCharAt i = true) ∧
      ∀ i, i + 1 = start → t.wordCharAt i = false

/-- In front of a text no word began. -/
theorem beganAt_zero {t : Text} : BeganAt t 0 none := fun i hi => absurd hi (Nat.succ_ne_zero i)

namespace BeganAt

variable {t : Text} {index start stop : Nat} {since : Option Nat}

/-- A word character goes on with the word or begins one. -/
theorem next (h : BeganAt t index since) (hc : t.wordCharAt index = true) :
    BeganAt t (index + 1) (some (since.getD index)) := by
  cases since with
  | none =>
    refine ⟨Nat.lt_succ_self _, fun i hi hi' => ?_, h⟩
    rw [Option.getD_none] at hi
    rwa [Nat.le_antisymm (Nat.lt_succ_iff.mp hi') hi]
  | some start =>
    obtain ⟨hlt, hall, hfront⟩ := h
    refine ⟨Nat.lt_succ_of_lt hlt, fun i hi hi' => ?_, hfront⟩
    rcases Nat.lt_succ_iff_lt_or_eq.mp hi' with hlt | rfl
    · exact hall i hi hlt
    · exact hc

/-- Another character begins no word. -/
theorem none_of_not (hc : t.wordCharAt index = false) : BeganAt t (index + 1) none := fun i hi => by
  rwa [Nat.succ.inj hi]

/-- What ends where no word character stands is the word that began. -/
theorem isWord_iff (h : BeganAt t index since) (hc : t.wordCharAt index = false) :
    IsWord t start index ↔ since = some start := by
  constructor
  · intro hw
    have hlt := hw.lt
    cases since with
    | none =>
      have hlast := h (index - 1) (by omega)
      rw [hw.all (index - 1) (by omega) (by omega)] at hlast
      cases hlast
    | some began =>
      obtain ⟨hbefore, hall, hfront⟩ := h
      have hbegan : IsWord t began index := ⟨hbefore, hall, hfront, hc⟩
      rw [(hbegan.unique hw ⟨Nat.le_of_lt hbefore, Nat.le_refl _⟩
        ⟨Nat.le_of_lt hlt, Nat.le_refl _⟩).1]
  · rintro rfl
    obtain ⟨hlt, hall, hfront⟩ := h
    exact ⟨hlt, hall, hfront, hc⟩

/-- The words that end where no word character stands, or later: the one that began, and those that
end later. -/
theorem ends_iff (h : BeganAt t index since) (hc : t.wordCharAt index = false) :
    IsWord t start stop ∧ index ≤ stop ↔
      (start, stop) ∈ (since.map (·, index)).toList ∨ IsWord t start stop ∧ index + 1 ≤ stop := by
  have hmem :
      (start, stop) ∈ (since.map (·, index)).toList ↔ since = some start ∧ stop = index := by
    cases since with
    | none => simp
    | some began => simp [eq_comm (a := began)]
  rw [hmem, ← h.isWord_iff hc]
  constructor
  · rintro ⟨hw, hle⟩
    rcases Nat.lt_or_eq_of_le hle with hlt | rfl
    · exact Or.inr ⟨hw, hlt⟩
    · exact Or.inl ⟨hw, rfl⟩
  · rintro (⟨hw, rfl⟩ | ⟨hw, hlt⟩)
    · exact ⟨hw, Nat.le_refl _⟩
    · exact ⟨hw, Nat.le_of_succ_le hlt⟩

end BeganAt

theorem wordRunsFrom_nil (index : Nat) (since : Option Nat) :
    wordRunsFrom index since [] = (since.map (·, index)).toList := by cases since <;> rfl

theorem wordRunsFrom_cons (index : Nat) (since : Option Nat) (c : Char) (cs : Text) :
    wordRunsFrom index since (c :: cs) =
      if isWordChar c then wordRunsFrom (index + 1) (some (since.getD index)) cs
      else (since.map (·, index)).toList ++ wordRunsFrom (index + 1) none cs := by
  cases since <;> rfl

/-- From an index on, the runs found are the words that end there or later. -/
theorem mem_wordRunsFrom {t rest : Text} {index : Nat} (hrest : t.drop index = rest)
    {since : Option Nat} (h : BeganAt t index since) {start stop : Nat} :
    (start, stop) ∈ wordRunsFrom index since rest ↔ IsWord t start stop ∧ index ≤ stop := by
  induction rest generalizing index since with
  | nil =>
    have hlen : t.length ≤ index := List.drop_eq_nil_iff.mp hrest
    rw [wordRunsFrom_nil, h.ends_iff (Text.wordCharAt_of_length_le hlen)]
    refine (or_iff_left fun hlater => ?_).symm
    have hle := hlater.1.le_length
    omega
  | cons c cs ih =>
    have hat : t[index]? = some c := by rw [← List.head?_drop, hrest]; rfl
    have hcs : t.drop (index + 1) = cs := by rw [← List.tail_drop, hrest]; rfl
    have hc := Text.wordCharAt_of_getElem? hat
    rw [wordRunsFrom_cons]
    split
    · rename_i hword
      rw [hword] at hc
      rw [ih hcs (h.next hc)]
      refine and_congr_right fun hw => ⟨Nat.le_of_succ_le, fun hle => ?_⟩
      -- no word ends where a word character stands
      rcases Nat.lt_or_eq_of_le hle with hlt | rfl
      · exact hlt
      · rw [hw.behind] at hc
        cases hc
    · rename_i hword
      rw [Bool.eq_false_iff.mpr hword] at hc
      rw [List.mem_append, ih hcs (BeganAt.none_of_not hc), h.ends_iff hc]

/-- The runs of word characters that are found in a text are its words. -/
theorem mem_wordRuns {t : Text} {start stop : Nat} :
    (start, stop) ∈ wordRuns t ↔ IsWord t start stop := by
  rw [wordRuns, mem_wordRunsFrom List.drop_zero beganAt_zero]
  exact and_iff_left (Nat.zero_le _)

/-! ## The word at a position -/

variable {d : Document}

/-- The word at a position is the one of its line that the position lies in or touches. -/
theorem wordAt_eq_some {p : Position} {r : Range} :
    d.wordAt p = some r ↔ ∃ text start stop, d.lines[p.line]? = some text ∧ IsWord text start stop ∧
      start ≤ p.character ∧ p.character ≤ stop ∧ r = Range.ofCoords p.line start p.line stop := by
  simp only [wordAt, Option.bind_eq_bind, Option.bind_eq_some_iff]
  constructor
  · rintro ⟨text, htext, ⟨start, stop⟩, hfound, hr⟩
    have htouches := List.find?_some hfound
    rw [Bool.and_eq_true, decide_eq_true_eq, decide_eq_true_eq] at htouches
    cases hr
    exact ⟨text, start, stop, htext, mem_wordRuns.mp (List.mem_of_find?_eq_some hfound),
      htouches.1, htouches.2, rfl⟩
  · rintro ⟨text, start, stop, htext, hw, hstart, hstop, rfl⟩
    have hsome : ((wordRuns text).find? fun w =>
        w.1 ≤ p.character && p.character ≤ w.2).isSome = true :=
      List.find?_isSome.mpr ⟨(start, stop), mem_wordRuns.mpr hw, by simp [hstart, hstop]⟩
    obtain ⟨⟨start', stop'⟩, hfound⟩ := Option.isSome_iff_exists.mp hsome
    have htouches := List.find?_some hfound
    rw [Bool.and_eq_true, decide_eq_true_eq, decide_eq_true_eq] at htouches
    obtain ⟨rfl, rfl⟩ := hw.unique (mem_wordRuns.mp (List.mem_of_find?_eq_some hfound))
      ⟨hstart, hstop⟩ htouches
    exact ⟨text, htext, _, hfound, rfl⟩

/-! ## Words of a line and of the text -/

section

variable {n c : Nat} {raw : Text}

theorem any_wordChar_of_lineFeed {o : Option Char} (h : o.all (· == '\n') = true) :
    o.any isWordChar = false := by
  cases o with
  | none => rfl
  | some x =>
    obtain rfl : x = '\n' := by simpa using h
    rfl

/-- No word character stands at the end of a line, before or behind its carriage return. -/
theorem wordCharAt_line_end (h : d.rawLines[n]? = some raw) (hc : (dropReturn raw).length ≤ c)
    (hc' : c ≤ raw.length) : d.text.wordCharAt (lineStart d.rawLines n + c) = false := by
  rcases Nat.lt_or_eq_of_le hc' with hlt | rfl
  · rcases dropReturn_cases raw with hraw | ⟨hraw, -⟩
    · have hlen := congrArg List.length hraw
      rw [List.length_append, List.length_singleton] at hlen
      obtain rfl : c = (dropReturn raw).length := by omega
      have hat : raw[(dropReturn raw).length]? = some '\r' := by
        conv => lhs; lhs; rw [hraw]
        exact List.getElem?_concat_length
      rw [Text.wordCharAt, getElem?_text h hlt, hat]
      rfl
    · rw [hraw] at hc
      omega
  · exact any_wordChar_of_lineFeed (getElem?_text_length h)

/-- A word character stands on a line exactly where one stands in the text. -/
theorem wordCharAt_text (h : d.rawLines[n]? = some raw) (hc : c ≤ (dropReturn raw).length) :
    d.text.wordCharAt (lineStart d.rawLines n + c) = (dropReturn raw).wordCharAt c := by
  have hle := length_dropReturn_le raw
  rcases Nat.lt_or_eq_of_le hc with hlt | rfl
  · obtain ⟨tail, htail⟩ := dropReturn_front raw
    have hat : raw[c]? = (dropReturn raw)[c]? := by
      conv => lhs; lhs; rw [← htail]
      exact List.getElem?_append_left hlt
    rw [Text.wordCharAt, getElem?_text h (by omega), hat, Text.wordCharAt]
  · rw [wordCharAt_line_end h (Nat.le_refl _) hle, Text.wordCharAt_of_length_le (Nat.le_refl _)]

/-- No word character stands in front of a line. -/
theorem wordCharAt_before_line (h : d.rawLines[n]? = some raw) {i : Nat}
    (hi : i + 1 = lineStart d.rawLines n) : d.text.wordCharAt i = false := by
  obtain ⟨before, after, htext, hlen, hbehind, -⟩ := exists_around_line h
  have hlast : d.text[i]? = before.getLast? := by
    rw [htext, List.getElem?_append_left (by omega), List.getLast?_eq_getElem?]
    congr
    omega
  rw [Text.wordCharAt, hlast]
  exact any_wordChar_of_lineFeed hbehind

/-- A word of a line is a word of the text. -/
theorem isWord_text (h : d.rawLines[n]? = some raw) {start stop : Nat}
    (hw : IsWord (dropReturn raw) start stop) :
    IsWord d.text (lineStart d.rawLines n + start) (lineStart d.rawLines n + stop) where
  lt := Nat.add_lt_add_left hw.lt _
  all i hi hi' := by
    obtain ⟨c, rfl⟩ := Nat.exists_eq_add_of_le (Nat.le_trans (Nat.le_add_right _ _) hi)
    have hc : c < stop := by omega
    rw [wordCharAt_text h (Nat.le_trans (Nat.le_of_lt hc) hw.le_length)]
    exact hw.all c (by omega) hc
  front i hi := by
    cases start with
    | zero => exact wordCharAt_before_line h hi
    | succ c =>
      obtain rfl : i = lineStart d.rawLines n + c := by omega
      have hlt := hw.lt
      rw [wordCharAt_text h (by have := hw.le_length; omega)]
      exact hw.front c rfl
  behind := by
    rw [wordCharAt_text h hw.le_length]
    exact hw.behind

end

/-- A word character of the text stands on a line. -/
theorem exists_line_of_wordCharAt {first : Nat} (h : d.text.wordCharAt first = true) :
    ∃ n raw c, d.rawLines[n]? = some raw ∧ c < (dropReturn raw).length ∧
      first = lineStart d.rawLines n + c ∧ d.positionAt first = ⟨n, c⟩ := by
  obtain ⟨n, raw, c, hraw, hc, hfirst, hp⟩ := d.exists_line first
  rw [Int.toNat_natCast, Nat.min_eq_left (Nat.le_of_lt (Text.lt_length_of_wordCharAt h))] at hfirst
  have hlt : c < (dropReturn raw).length := by
    by_contra hge
    rw [hfirst, wordCharAt_line_end hraw (Nat.le_of_not_lt hge) hc] at h
    cases h
  exact ⟨n, raw, c, hraw, hlt, hfirst, by rw [hp, Nat.min_eq_left (Nat.le_of_lt hlt)]⟩

/-- Around a word character of the text there is a word, and it is the word one place behind the
position of the character. -/
theorem exists_wordAt {first : Nat} (h : d.text.wordCharAt first = true) :
    ∃ start stop r, IsWord d.text start stop ∧ start ≤ first ∧ first < stop ∧
      d.wordAt ((d.positionAt first).right 1) = some r ∧ d.textIn r = d.text.slice start stop := by
  obtain ⟨n, raw, c, hraw, hc, rfl, hp⟩ := exists_line_of_wordCharAt h
  rw [wordCharAt_text hraw (Nat.le_of_lt hc)] at h
  obtain ⟨start, stop, hw, hstart, hstop⟩ := exists_isWord h
  refine ⟨_, _, Range.ofCoords n start n stop, isWord_text hraw hw, by omega, by omega, ?_, ?_⟩
  · rw [hp, wordAt_eq_some]
    exact ⟨_, start, stop, lines_getElem? hraw, hw, Nat.le_succ_of_le hstart, hstop, rfl⟩
  · have hlen := hw.le_length
    have hlt := hw.lt
    rw [textIn, Range.ofCoords, offsetAt_of_line hraw, offsetAt_of_line hraw, Nat.min_eq_left hlen,
      Nat.min_eq_left (by omega)]

end Document
end Outline
